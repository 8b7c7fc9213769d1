import Provenance.Compiler.Artifacts
import Provenance.Proofs.Files.Paving

/-!
What storing a file does to the tree. Nothing that is there goes away, a stored
file is there afterwards, and the other files of the directory are there or
missing as before. For the last the path of the directory has to be straight:
otherwise making the directory can be what makes other files visible. Where the
directory cannot be made, its names have to be short enough too, since the path
may lead further than before and be refused there.
-/

namespace Provenance

namespace FileName

theorem isPlain_of_isAlphanumeric {c : Char} (h : Ascii.isAlphanumeric c = true) :
    isPlain c = true := by
  simp [isPlain, h]

/-- What a valid name is made of. -/
theorem exists_of_isValid {name : String} (h : isValid name = true) :
    ∃ first rest, name.toList = first :: rest ∧ name.utf8ByteSize ≤ maxLength ∧
      Ascii.isAlphanumeric first = true ∧ (∀ c ∈ name.toList, isPlain c = true) ∧
        hasDoublePoint name.toList = false := by
  unfold isValid at h
  split at h
  · cases h
  · rename_i first rest hname
    simp only [Bool.and_eq_true, decide_eq_true_eq, List.all_eq_true, Bool.not_eq_true'] at h
    obtain ⟨⟨⟨hlength, hfirst⟩, hrest⟩, hpoints⟩ := h
    refine ⟨first, rest, hname, hlength, hfirst, ?_, hname ▸ hpoints⟩
    rw [hname]
    exact List.forall_mem_cons.2 ⟨isPlain_of_isAlphanumeric hfirst, hrest⟩

/-- A valid name can name a file in a directory. -/
theorem plain_of_isValid {name : String} (h : isValid name = true) :
    '/' ∉ name.toList ∧ name ∉ Files.Tree.marks ∧ Files.Tree.Fits name := by
  obtain ⟨first, rest, hname, hlength, hfirst, hall, -⟩ := exists_of_isValid h
  refine ⟨fun hslash => absurd (hall _ hslash) (by decide), fun hmark => ?_, .inr hlength⟩
  simp only [Files.Tree.marks, List.mem_cons, List.not_mem_nil, or_false] at hmark
  rcases hmark with rfl | rfl | rfl
  · cases hname
  · obtain ⟨rfl, -⟩ := List.cons.inj (show ['.'] = first :: rest from hname)
    exact absurd hfirst (by decide)
  · obtain ⟨rfl, -⟩ := List.cons.inj (show ['.', '.'] = first :: rest from hname)
    exact absurd hfirst (by decide)

end FileName

namespace Artifacts

open Files

variable {a : Artifacts} {t u v : Tree} {order : ArtifactOrder} {data : Bytes} {name : String}

/-- What storing comes to. A file that is refused early leaves the tree as it
is; one that is refused later leaves the directories that were made for it. -/
inductive Stores (a : Artifacts) (t : Tree) (order : ArtifactOrder) :
    Tree → Except FetchFault Unit → Prop
  | refused (fault : FetchFault) : Stores a t order t (.error fault)
  | unmade {u : Tree} {place : Place} {front back : List String} (fault : FetchFault)
      (hfront : Tree.namesOf a.stagingPath = front ++ back)
      (hpave : t.pave [] front = .ok (u, place)) : Stores a t order u (.error fault)
  | dropped {u v : Tree} {staging : Place} (fault : FetchFault)
      (hpave : t.makeDirectories a.stagingPath = .ok (u, staging))
      (hnode : ∀ place, v.node? place = u.node? place) : Stores a t order v (.error fault)
  | settled {u v : Tree} {staging target : Place} {node : Node}
      (hpave : t.makeDirectories a.stagingPath = .ok (u, staging))
      (hlocate : v.locate (a.path order.fileName) = .ok target)
      (htarget : u.node? target ≠ some .directory)
      (hnode : ∀ place, v.node? place = if place = target then some node else u.node? place) :
      Stores a t order v (.ok ())

theorem settle_cases (files : Tree) (staged : Place) (path : String) :
    (∃ fault, settle files staged path = (files.remove staged, .error fault)) ∨
      ∃ target moved, files.locate path = .ok target ∧ files.move staged target = .ok moved ∧
        settle files staged path = (moved, .ok ()) := by
  unfold settle
  cases hlocate : files.locate path with
  | error fault => exact .inl ⟨_, rfl⟩
  | ok target =>
    cases hmove : files.move staged target with
    | error fault => exact .inl ⟨.file fault.message, by simp [hmove, bind, Except.bind]⟩
    | ok moved => exact .inr ⟨target, moved, rfl, hmove, by simp [hmove, bind, Except.bind]⟩

/-- A new file that is moved to its place changes nothing else. -/
theorem node?_of_move_staged {staged target : Place} {moved : Tree} {node : Node} {path : String}
    (hfresh : u.node? staged = none) (hfile : node ≠ .directory)
    (hlocate : (u.set staged node).locate path = .ok target)
    (hmove : (u.set staged node).move staged target = .ok moved) :
    moved.locate path = .ok target ∧ u.node? target ≠ some .directory ∧
      ∀ place, moved.node? place = if place = target then some node else u.node? place := by
  have hset (place : Place) := u.node?_set staged place node
  obtain ⟨found, hfound, hdirectory, hnode⟩ := Tree.node?_move hmove
  obtain rfl : node = found := by
    rw [hset, if_pos rfl] at hfound
    exact Option.some.inj hfound
  have hother {place : Place} (hplace : place ≠ target) : moved.node? place = u.node? place := by
    rw [hnode, if_neg hplace]
    split_ifs with hstaged
    · rw [hstaged, hfresh]
    · rw [hset, if_neg hstaged]
  refine ⟨Tree.locate_of_directories (fun {place} hplace => ?_) hlocate, fun hthere => ?_,
    fun place => ?_⟩
  · have hne : place ≠ target := by
      rintro rfl
      exact hdirectory hplace
    rw [hother hne]
    rw [hset] at hplace
    split_ifs at hplace with hstaged
    · exact absurd (Option.some.inj hplace) hfile
    · exact hplace
  · refine hdirectory ?_
    rwa [hset, if_neg]
    rintro rfl
    simp [hfresh] at hthere
  · split_ifs with hplace
    · rw [hnode, if_pos hplace]
    · exact hother hplace

/-- Putting a new file in its place, or taking it away again. -/
theorem stores_of_settle {staging staged : Place}
    (hpave : t.makeDirectories a.stagingPath = .ok (u, staging))
    (hfresh : u.node? staged = none) {node : Node} (hfile : node ≠ .directory) :
    Stores a t order (settle (u.set staged node) staged (a.path order.fileName)).1
      (settle (u.set staged node) staged (a.path order.fileName)).2 := by
  rcases settle_cases (u.set staged node) staged (a.path order.fileName) with
    ⟨fault, hsettle⟩ | ⟨target, moved, hlocate, hmove, hsettle⟩
  · rw [hsettle]
    refine .dropped fault hpave fun place => ?_
    rw [Tree.node?_remove]
    split_ifs with hplace
    · rw [hplace, hfresh]
    · rw [Tree.node?_set, if_neg hplace]
  · rw [hsettle]
    obtain ⟨hlocate, htarget, hnode⟩ := node?_of_move_staged hfresh hfile hlocate hmove
    exact .settled hpave hlocate htarget hnode

theorem stores_of_store (a : Artifacts) (t : Tree) (order : ArtifactOrder) (data : Bytes) :
    Stores a t order (a.store t order data).1 (a.store t order data).2 := by
  unfold store
  cases check order data with
  | error fault => exact .refused fault
  | ok =>
    cases hpave : t.makeDirectories a.stagingPath with
    | error fault =>
      rcases t.paveFront_cases [] (Tree.namesOf a.stagingPath) with
        hsame | ⟨front, back, place, hfront, hpave⟩
      · dsimp only
        rw [Tree.makeFront, hsame]
        exact .refused _
      · exact .unmade _ hfront hpave
    | ok made =>
      obtain ⟨u, staging⟩ := made
      cases content order data with
      | error fault => exact .dropped fault hpave fun _ => rfl
      | ok content => exact stores_of_settle hpave (u.node?_freshName staging) nofun

/-- The file of an order is what was taken out of data that passed the order's check. -/
structure Holds (a : Artifacts) (t : Tree) (order : ArtifactOrder) (data file : Bytes) :
    Prop where
  checked : check order data = .ok ()
  content : content order data = .ok file
  read : t.read (a.path order.fileName) = .ok file

/-- A file that is stored was checked and taken out of the data. -/
theorem holds_of_store (h : (a.store t order data).2 = .ok ()) :
    ∃ file, a.Holds (a.store t order data).1 order data file := by
  unfold store at h ⊢
  cases hcheck : check order data with
  | error fault =>
    rw [hcheck] at h
    cases h
  | ok =>
    rw [hcheck] at h
    dsimp only at h ⊢
    cases hpave : t.makeDirectories a.stagingPath with
    | error fault =>
      rw [hpave] at h
      cases h
    | ok made =>
      obtain ⟨u, staging⟩ := made
      rw [hpave] at h
      dsimp only at h ⊢
      cases hcontent : content order data with
      | error fault =>
        rw [hcontent] at h
        cases h
      | ok file =>
        rw [hcontent] at h
        refine ⟨file, hcheck, hcontent, ?_⟩
        dsimp only at h ⊢
        have hfresh := u.node?_freshName staging
        generalize staging ++ [u.freshName staging] = staged at h hfresh ⊢
        rcases settle_cases (u.set staged (.file file order.executable)) staged
          (a.path order.fileName) with ⟨fault, hsettle⟩ | ⟨target, moved, hlocate, hmove, hsettle⟩
        · rw [hsettle] at h
          cases h
        · have hfile : Node.file file order.executable ≠ .directory := nofun
          obtain ⟨hlocate, -, hnode⟩ := node?_of_move_staged hfresh hfile hlocate hmove
          rw [hsettle]
          exact Tree.read_eq_ok_iff.2 ⟨target, order.executable, hlocate, by simp [hnode]⟩

/-- A file in the place of a file, or where nothing is. -/
theorem keeps_of_target {target : Place} {node : Node}
    (htarget : u.node? target ≠ some .directory)
    (hnode : ∀ place, v.node? place = if place = target then some node else u.node? place) :
    Tree.Keeps u v := by
  refine ⟨fun {place} hplace => ?_, fun {place} hplace => ?_⟩
  · rwa [hnode, if_neg]
    rintro rfl
    exact htarget hplace
  · rw [hnode]
    split_ifs
    · rfl
    · exact hplace

/-- Storing takes nothing away. -/
theorem Stores.keeps {result : Except FetchFault Unit} (h : Stores a t order v result) :
    Tree.Keeps t v := by
  cases h with
  | refused => exact Tree.Keeps.refl t
  | unmade _ _ hpave => exact (Tree.pave_eq_ok hpave).1
  | dropped _ hpave hnode =>
    exact (Tree.pave_eq_ok hpave).1.trans (Tree.keeps_of_node? hnode)
  | settled hpave _ htarget hnode =>
    exact (Tree.pave_eq_ok hpave).1.trans (keeps_of_target htarget hnode)

theorem isPresent_eq_ok_iff {found : Bool} :
    a.isPresent t name = .ok found ↔ t.exists? (a.path name) = .ok found := by
  unfold isPresent
  cases t.exists? (a.path name) <;> simp [Except.mapError]

/-- A stored file is there. -/
theorem Stores.isPresent_self (h : Stores a t order v (.ok ())) :
    a.isPresent v order.fileName = .ok true := by
  cases h with
  | settled _ hlocate _ hnode =>
    exact isPresent_eq_ok_iff.2 (Tree.exists?_eq_true_iff.2 ⟨_, hlocate, by simp [hnode]⟩)

theorem isPresent_of_store (hstored : (a.store t order data).2 = .ok ()) :
    a.isPresent (a.store t order data).1 order.fileName = .ok true := by
  have hstores := a.stores_of_store t order data
  rw [hstored] at hstores
  exact hstores.isPresent_self

/-- A file that is there stays there. -/
theorem Stores.isPresent_keeps {result : Except FetchFault Unit} (h : Stores a t order v result)
    (hname : a.isPresent t name = .ok true) : a.isPresent v name = .ok true :=
  isPresent_eq_ok_iff.2 (Tree.exists?_keeps h.keeps (isPresent_eq_ok_iff.1 hname))

/-! Other files -/

def above (a : Artifacts) : List String := (Tree.namesOf a.stagingPath).dropLast

theorem namesOf_path (a : Artifacts) (hname : '/' ∉ name.toList) :
    Tree.namesOf (a.path name) = a.above ++ [name] := by
  obtain ⟨names, -, hnames⟩ := Tree.exists_namesOf_joinPath a.directory
  rw [path, above, stagingPath, path, hnames name hname, hnames stagingName (by decide),
    List.dropLast_concat]

theorem path_ne_empty (a : Artifacts) (hname : FileName.isValid name = true) :
    a.path name ≠ "" := by
  obtain ⟨hslash, hplain, -⟩ := FileName.plain_of_isValid hname
  intro hempty
  have hnames := a.namesOf_path hslash
  rw [hempty, show Tree.namesOf "" = [] ++ [""] from rfl] at hnames
  obtain ⟨-, hlast⟩ := List.append_inj' hnames rfl
  rw [← List.singleton_inj.1 hlast] at hplain
  exact hplain (by decide)

def IsStraight (a : Artifacts) (t : Tree) : Prop := t.Straight [] a.above

structure IsHome (a : Artifacts) (t : Tree) (home : Place) : Prop where
  walk : t.walk [] a.above = .ok home
  directory : t.node? home = some .directory

theorem IsHome.isStraight {home : Place} (h : a.IsHome t home) : a.IsStraight t :=
  Tree.Straight.of_walk h.walk (by simp [h.directory])

theorem IsHome.keeps {home : Place} (h : a.IsHome t home) (hkeeps : Tree.Keeps t u) :
    a.IsHome u home :=
  ⟨Tree.walk_of_directories hkeeps.directory h.walk, hkeeps.directory h.directory⟩

theorem IsHome.walk_path {home : Place} (h : a.IsHome t home)
    (hname : FileName.isValid name = true) :
    t.walk [] (Tree.namesOf (a.path name)) = .ok (home ++ [name]) := by
  obtain ⟨hslash, hplain, hfits⟩ := FileName.plain_of_isValid hname
  rw [a.namesOf_path hslash, Tree.walk_append, h.walk]
  exact Tree.walk_cons_eq_ok.2 ⟨h.directory, hfits, by rw [Tree.toward_of_plain _ hplain]; rfl⟩

theorem IsHome.leads? {home : Place} (h : a.IsHome t home)
    (hname : FileName.isValid name = true) :
    t.leads? (Tree.namesOf (a.path name)) = .ok (t.node? (home ++ [name])).isSome := by
  rw [Tree.leads?, h.walk_path hname]

theorem IsHome.eq_of_locate {home target : Place} (h : a.IsHome t home)
    (hname : FileName.isValid name = true) (hlocate : t.locate (a.path name) = .ok target) :
    target = home ++ [name] := by
  unfold Tree.locate at hlocate
  split_ifs at hlocate
  rw [h.walk_path hname] at hlocate
  exact (Except.ok.inj hlocate).symm

/-- The staging directory is made in the directory, which then is there, and a name
is in it exactly if its path led to something before. -/
theorem IsStraight.exists_home {staging : Place} (h : a.IsStraight t)
    (hpave : t.makeDirectories a.stagingPath = .ok (u, staging)) :
    ∃ home, a.IsHome u home ∧ ∀ name, FileName.isValid name = true → name ≠ stagingName →
      t.leads? (Tree.namesOf (a.path name)) = .ok (u.node? (home ++ [name])).isSome := by
  have hstaging : stagingName ∉ Tree.marks := by decide
  rw [Tree.makeDirectories, stagingPath, a.namesOf_path (by decide)] at hpave
  obtain ⟨home, rfl, hwalk, hdirectory⟩ := Tree.exists_home_of_pave hpave hstaging
  refine ⟨home, ⟨hwalk, hdirectory⟩, fun name hname hne => ?_⟩
  obtain ⟨hslash, hplain, hfits⟩ := FileName.plain_of_isValid hname
  rw [a.namesOf_path hslash, Tree.leads?]
  rcases Tree.Straight.leads h hpave hwalk hstaging hplain hfits hne with
    ⟨hfound, hsome⟩ | ⟨hmissing, hnone⟩
  · rw [hfound, hsome]
  · rw [hmissing, hnone]
    rfl

/-- A directory of which a front was made stays straight. -/
theorem IsStraight.of_front {place : Place} {front back : List String} (h : a.IsStraight t)
    (hfront : Tree.namesOf a.stagingPath = front ++ back)
    (hpave : t.pave [] front = .ok (u, place)) : a.IsStraight u := by
  rcases List.eq_nil_or_concat back with rfl | ⟨back, last, rfl⟩
  · rw [List.append_nil] at hfront
    rw [← hfront] at hpave
    obtain ⟨home, hhome, -⟩ := h.exists_home hpave
    exact hhome.isStraight
  · rw [List.concat_eq_append, ← List.append_assoc, stagingPath,
      a.namesOf_path (by decide)] at hfront
    obtain ⟨habove, -⟩ := List.append_inj' hfront rfl
    rw [IsStraight, habove] at h
    rw [IsStraight, habove]
    exact h.of_pave hpave

/-- The directory can be made as its path stands: the path does not lead back out of a
directory that is missing, and its names can be those of directories. -/
structure IsWellPlaced (a : Artifacts) (t : Tree) : Prop where
  straight : a.IsStraight t
  fits : ∀ name ∈ a.above, Tree.Fits name

/-- A directory that is there is well placed. -/
theorem IsHome.isWellPlaced {home : Place} (h : a.IsHome t home) : a.IsWellPlaced t :=
  ⟨h.isStraight, Tree.fits_of_walk h.walk⟩

/-- Making a front of the directory changes nothing that a file is seen by. -/
theorem IsWellPlaced.find_of_front {place : Place} {front back : List String}
    (h : a.IsWellPlaced t) (hfront : Tree.namesOf a.stagingPath = front ++ back)
    (hpave : t.pave [] front = .ok (u, place)) (hname : FileName.isValid name = true)
    (hne : name ≠ stagingName) : u.find (a.path name) = t.find (a.path name) := by
  obtain ⟨hslash, hplain, hfits⟩ := FileName.plain_of_isValid hname
  rw [stagingPath, a.namesOf_path (by decide)] at hfront
  apply Tree.find_congr
  rw [a.namesOf_path hslash]
  exact h.straight.seek_of_pave hpave hfront h.fits (by decide) hplain hfits hne

theorem isPresent_of_find (h : u.find (a.path name) = t.find (a.path name)) :
    a.isPresent u name = a.isPresent t name := by
  rw [isPresent, isPresent, Tree.exists?, Tree.exists?, h]

theorem isPresent_congr
    (h : t.leads? (Tree.namesOf (a.path name)) = u.leads? (Tree.namesOf (a.path name))) :
    a.isPresent t name = a.isPresent u name := by
  rw [isPresent, isPresent, Tree.exists?_congr h]

theorem fits_of_isPresent (hname : FileName.isValid name = true)
    (hpresent : a.isPresent t name = .ok true) : ∀ n ∈ a.above, Tree.Fits n := by
  obtain ⟨hslash, -, -⟩ := FileName.plain_of_isValid hname
  have hexists := isPresent_eq_ok_iff.1 hpresent
  obtain ⟨place, hlocate, -⟩ := Tree.exists?_eq_true_iff.1 hexists
  rw [Tree.locate_eq_walk hexists (a.path_ne_empty hname), a.namesOf_path hslash] at hlocate
  intro n hn
  exact Tree.fits_of_walk hlocate n (List.mem_append_left _ hn)

namespace Stores

variable {result : Except FetchFault Unit} (h : Stores a t order v result)

include h

theorem isStraight (hstraight : a.IsStraight t) : a.IsStraight v := by
  cases h with
  | refused => exact hstraight
  | unmade _ hfront hpave => exact hstraight.of_front hfront hpave
  | dropped _ hpave hnode =>
    obtain ⟨home, hhome, -⟩ := hstraight.exists_home hpave
    exact (hhome.keeps (Tree.keeps_of_node? hnode)).isStraight
  | settled hpave _ htarget hnode =>
    obtain ⟨home, hhome, -⟩ := hstraight.exists_home hpave
    exact (hhome.keeps (keeps_of_target htarget hnode)).isStraight

theorem isWellPlaced (hplaced : a.IsWellPlaced t) : a.IsWellPlaced v :=
  ⟨h.isStraight hplaced.straight, hplaced.fits⟩

/-- Whether another file is there does not change, and a file that could not be
stored is missing as before. -/
theorem isPresent_eq (hplaced : a.IsWellPlaced t)
    (horder : FileName.isValid order.fileName = true) (hname : FileName.isValid name = true)
    (hne : name ≠ stagingName) (hother : name = order.fileName → result ≠ .ok ()) :
    a.isPresent v name = a.isPresent t name := by
  have hstraight := hplaced.straight
  cases h with
  | refused => rfl
  | unmade _ hfront hpave =>
    exact isPresent_of_find (hplaced.find_of_front hfront hpave hname hne)
  | dropped _ hpave hnode =>
    obtain ⟨home, hhome, hleads⟩ := hstraight.exists_home hpave
    refine isPresent_congr ?_
    rw [hleads name hname hne, (hhome.keeps (Tree.keeps_of_node? hnode)).leads? hname, hnode]
  | @settled u _ staging target node hpave hlocate htarget hnode =>
    obtain ⟨home, hhome, hleads⟩ := hstraight.exists_home hpave
    have hhome' := hhome.keeps (keeps_of_target htarget hnode)
    refine isPresent_congr ?_
    rw [hleads name hname hne, hhome'.leads? hname, hnode, if_neg]
    rw [hhome'.eq_of_locate horder hlocate]
    intro heq
    have hself : name = order.fileName := by simpa using heq
    exact hother hself rfl

/-- Another file that is there afterwards was there before. -/
theorem isPresent_before (hstraight : a.IsStraight t)
    (horder : FileName.isValid order.fileName = true) (hname : FileName.isValid name = true)
    (hne : name ≠ stagingName) (hother : name = order.fileName → result ≠ .ok ())
    (hpresent : a.isPresent v name = .ok true) : a.isPresent t name = .ok true := by
  have hplaced : a.IsWellPlaced t := ⟨hstraight, fits_of_isPresent hname hpresent⟩
  rw [← h.isPresent_eq hplaced horder hname hne hother, hpresent]

/-- What is in another file does not change. -/
theorem read_other (hstraight : a.IsStraight t)
    (horder : FileName.isValid order.fileName = true)
    (hname : FileName.isValid name = true) (hother : name = order.fileName → result ≠ .ok ())
    {file : Bytes} (hread : t.read (a.path name) = .ok file) :
    v.read (a.path name) = .ok file := by
  obtain ⟨place, executable, hlocate, hfile⟩ := Tree.read_eq_ok_iff.1 hread
  have hlocate' := Tree.locate_of_directories h.keeps.directory hlocate
  refine Tree.read_eq_ok_iff.2 ⟨place, executable, hlocate', ?_⟩
  cases h with
  | refused => exact hfile
  | unmade _ _ hpave => exact Tree.node?_of_pave hpave hfile
  | dropped _ hpave hnode => rw [hnode, Tree.node?_of_pave hpave hfile]
  | @settled u _ staging target node hpave hplace htarget hnode =>
    obtain ⟨home, hhome, -⟩ := hstraight.exists_home hpave
    have hhome' := hhome.keeps (keeps_of_target htarget hnode)
    rw [hnode, if_neg, Tree.node?_of_pave hpave hfile]
    rw [hhome'.eq_of_locate hname hlocate', hhome'.eq_of_locate horder hplace]
    intro heq
    have hself : name = order.fileName := by simpa using heq
    exact hother hself rfl

end Stores

/-- Making the directories goes on succeeding, or failing in the same way. -/
theorem Stores.makeDirectories_eq {result : Except FetchFault Unit}
    (h : Stores a t order v result) :
    (v.makeDirectories a.stagingPath).map (fun _ => ()) =
      (t.makeDirectories a.stagingPath).map fun _ => () := by
  have hagain {u : Tree} {staging : Place} (hkeeps : Tree.Keeps u v)
      (hpave : t.makeDirectories a.stagingPath = .ok (u, staging)) :
      v.makeDirectories a.stagingPath = .ok (v, staging) := by
    obtain ⟨-, hwalk, hdirectory⟩ := Tree.pave_eq_ok hpave
    exact Tree.pave_of_walk (Tree.walk_of_directories hkeeps.directory hwalk)
      (hkeeps.directory hdirectory)
  cases h with
  | refused => rfl
  | unmade _ hfront hpave => rw [Tree.makeDirectories_of_pave hfront hpave]
  | dropped _ hpave hnode =>
    rw [hpave, hagain (Tree.keeps_of_node? hnode) hpave]
    rfl
  | settled hpave _ htarget hnode =>
    rw [hpave, hagain (keeps_of_target htarget hnode) hpave]
    rfl

/-- Nothing stands in the way of a file that is missing in the directory. -/
theorem settle_of_missing {staging staged : Place} {node : Node} (hstraight : a.IsStraight t)
    (hname : FileName.isValid name = true) (hne : name ≠ stagingName)
    (hmissing : a.isPresent t name = .ok false)
    (hpave : t.makeDirectories a.stagingPath = .ok (u, staging)) (hfresh : u.node? staged = none)
    (hfile : node ≠ .directory) : (settle (u.set staged node) staged (a.path name)).2 = .ok () := by
  obtain ⟨home, hhome, hleads⟩ := hstraight.exists_home hpave
  have hhome' : a.IsHome (u.set staged node) home := hhome.keeps (Tree.keeps_set hfresh)
  have hpath := a.path_ne_empty hname
  have hexists := isPresent_eq_ok_iff.1 hmissing
  have hnone : u.node? (home ++ [name]) = none := by
    have hfound := Tree.leads?_of_exists? hexists hpath
    rw [hleads name hname hne] at hfound
    simpa using hfound
  have hlocate : (u.set staged node).locate (a.path name) = .ok (home ++ [name]) := by
    rw [Tree.locate_eq_walk hexists hpath, hhome'.walk_path hname]
  have hsource : (u.set staged node).node? staged = some node := by
    rw [Tree.node?_set, if_pos rfl]
  have htarget : (u.set staged node).node? (home ++ [name]) ≠ some .directory := by
    rw [Tree.node?_set]
    split_ifs
    · simpa using hfile
    · simp [hnone]
  obtain ⟨moved, hmove⟩ := Tree.exists_move hsource htarget (by simpa using hhome'.directory)
  simp only [settle, hlocate, hmove, bind, Except.bind]

/-- What storing a file comes to that is missing in the directory. -/
theorem store_of_missing (hstraight : a.IsStraight t)
    (horder : FileName.isValid order.fileName = true) (hne : order.fileName ≠ stagingName)
    (hmissing : a.isPresent t order.fileName = .ok false) :
    (a.store t order data).2 =
      match check order data, (t.makeDirectories a.stagingPath).map (fun _ => ()),
        content order data with
      | .error fault, _, _ => .error fault
      | .ok (), .error fault, _ => .error (.file fault.message)
      | .ok (), .ok (), .error fault => .error fault
      | .ok (), .ok (), .ok _ => .ok () := by
  unfold store
  cases check order data with
  | error fault => rfl
  | ok =>
    cases hpave : t.makeDirectories a.stagingPath with
    | error fault => rfl
    | ok made =>
      cases content order data with
      | error fault => rfl
      | ok content =>
        exact settle_of_missing hstraight horder hne hmissing hpave (made.1.node?_freshName _) nofun

end Artifacts

end Provenance
