import Provenance.Proofs.Compiler.Provision
import Provenance.Proofs.Files.Paving

/-!
Downloads that break off. The system may refuse every call by which a file is put
together: while the directories are made, with any part of the file written, and when
the file is moved to its place. A file that was begun is taken away, so whatever was
refused, only directories are new. What the names of files lead to is as before, if the
directory is there or can be made as its path stands, and the next download fetches again.
-/

namespace Provenance

namespace Archive

inductive IsProgram (bytes file : Bytes) : Prop
  | intro {before behind : List Entry} {entry : Entry} {data : Bytes}
      (hdirectory : directory? bytes = some (before ++ entry :: behind))
      (hbefore : ∀ other ∈ before, other.isExecutable = false)
      (hentry : entry.isExecutable = true) (hdata : packed bytes entry = .ok data)
      (hfile : unpack entry data = .ok file) : IsProgram bytes file

theorem exists_of_firstExecutable {bytes file : Bytes} {entries : List Entry}
    (h : firstExecutable bytes entries = .ok file) :
    ∃ before entry behind data, entries = before ++ entry :: behind ∧
      (∀ other ∈ before, other.isExecutable = false) ∧ entry.isExecutable = true ∧
        packed bytes entry = .ok data ∧ unpack entry data = .ok file := by
  induction entries with
  | nil => cases h
  | cons entry entries ih =>
    rw [firstExecutable] at h
    cases hdata : packed bytes entry with
    | error fault =>
      rw [hdata] at h
      cases h
    | ok data =>
      simp only [hdata, bind, Except.bind] at h
      split_ifs at h with hentry
      · exact ⟨[], entry, entries, data, rfl, nofun, hentry, hdata, h⟩
      · obtain ⟨before, first, behind, data', rfl, hbefore, hfirst⟩ := ih h
        refine ⟨entry :: before, first, behind, data', rfl, ?_, hfirst⟩
        exact List.forall_mem_cons.2 ⟨eq_false_of_ne_true hentry, hbefore⟩

theorem isProgram_of_program {bytes file : Bytes} (h : program bytes = .ok file) :
    IsProgram bytes file := by
  unfold program at h
  cases hdirectory : directory? bytes with
  | none =>
    rw [hdirectory] at h
    cases h
  | some entries =>
    rw [hdirectory] at h
    obtain ⟨before, entry, behind, data, rfl, hbefore, hentry, hdata, hfile⟩ :=
      exists_of_firstExecutable h
    exact .intro hdirectory hbefore hentry hdata hfile

end Archive

namespace Artifacts

open Files

variable {a : Artifacts} {t u v : Tree} {w w' : Surroundings} {order order' : ArtifactOrder}
  {data file : Bytes} {name path : String} {fault : FetchFault}

inductive Abandons (a : Artifacts) (t : Tree) (order : ArtifactOrder) (data : Bytes) :
    Tree → FetchFault → Prop
  | unchecked {fault : FetchFault} (hcheck : check order data = .error fault) :
      Abandons a t order data t fault
  | unbegun {text : String} (hcheck : check order data = .ok ()) :
      Abandons a t order data t (.file text)
  | unmade {u : Tree} {place : Place} {front back : List String} {text : String}
      (hcheck : check order data = .ok ())
      (hfront : Tree.namesOf a.stagingPath = front ++ back)
      (hpave : t.pave [] front = .ok (u, place)) : Abandons a t order data u (.file text)
  /-- A part of the file was written, and taken away. -/
  | unwritten {u v : Tree} {staging staged : Place} {written : Bytes} {fault : FetchFault}
      (hcheck : check order data = .ok ())
      (hpave : t.makeDirectories a.stagingPath = .ok (u, staging))
      (hfresh : u.node? staged = none)
      (hwritten : ∀ file, content order data = .ok file → written <+: file)
      (hfault : content order data = .error fault ∨ ∃ text, fault = .file text)
      (hleft : ∀ place, v.node? place =
        ((u.set staged (.file written false)).remove staged).node? place) :
      Abandons a t order data v fault
  /-- The file was put together, and taken away. -/
  | unmoved {u v : Tree} {staging staged : Place} {file : Bytes} {text : String}
      (hcheck : check order data = .ok ())
      (hpave : t.makeDirectories a.stagingPath = .ok (u, staging))
      (hfresh : u.node? staged = none) (hcontent : content order data = .ok file)
      (hleft : ∀ place, v.node? place =
        ((u.set staged (.file file order.executable)).remove staged).node? place) :
      Abandons a t order data v (.file text)

/-- A file that is new and taken away leaves nothing. -/
theorem node?_remove_set {staged : Place} (hfresh : u.node? staged = none) (node : Node)
    (place : Place) : ((u.set staged node).remove staged).node? place = u.node? place := by
  rw [Tree.node?_remove]
  split_ifs with hplace
  · rw [hplace, hfresh]
  · rw [Tree.node?_set, if_neg hplace]

/-- Whatever was refused, a front of the directories is what is left. -/
theorem Abandons.made (h : a.Abandons t order data v fault) :
    v = t ∨ ∃ u place front back, Tree.namesOf a.stagingPath = front ++ back ∧
      t.pave [] front = .ok (u, place) ∧ ∀ place, v.node? place = u.node? place := by
  cases h with
  | unchecked => exact .inl rfl
  | unbegun => exact .inl rfl
  | unmade _ hfront hpave => exact .inr ⟨_, _, _, _, hfront, hpave, fun _ => rfl⟩
  | unwritten _ hpave hfresh _ _ hleft =>
    refine .inr ⟨_, _, _, [], (List.append_nil _).symm, hpave, fun place => ?_⟩
    rw [hleft, node?_remove_set hfresh]
  | unmoved _ hpave hfresh _ hleft =>
    refine .inr ⟨_, _, _, [], (List.append_nil _).symm, hpave, fun place => ?_⟩
    rw [hleft, node?_remove_set hfresh]

theorem Abandons.adds (h : a.Abandons t order data v fault) : Tree.Adds t v := by
  rcases h.made with rfl | ⟨u, place, front, back, -, hpave, hnode⟩
  · exact Tree.Adds.refl _
  · exact (Tree.adds_of_pave hpave).of_node? hnode

theorem Abandons.find_eq (h : a.Abandons t order data v fault) (hplaced : a.IsWellPlaced t)
    (hname : FileName.isValid name = true) (hne : name ≠ stagingName) :
    v.find (a.path name) = t.find (a.path name) := by
  rcases h.made with rfl | ⟨u, place, front, back, hfront, hpave, hnode⟩
  · rfl
  · rw [Tree.find_of_node? hnode]
    exact hplaced.find_of_front hfront hpave hname hne

theorem Abandons.isStraight (h : a.Abandons t order data v fault) (hstraight : a.IsStraight t) :
    a.IsStraight v := by
  rcases h.made with rfl | ⟨u, place, front, back, hfront, hpave, hnode⟩
  · exact hstraight
  · exact Tree.Straight.of_node? (hstraight.of_front hfront hpave) hnode

theorem settle_eq_error {files : Tree} {staged : Place}
    (h : (settle files staged path).2 = .error fault) :
    (settle files staged path).1 = files.remove staged ∧ ∃ text, fault = .file text := by
  unfold settle at h ⊢
  split at h
  · cases h
  · cases h
    exact ⟨rfl, _, rfl⟩

/-- A file that cannot be stored is abandoned. -/
theorem abandons_of_store (h : (a.store t order data).2 = .error fault) :
    a.Abandons t order data (a.store t order data).1 fault := by
  unfold store at h ⊢
  cases hcheck : check order data with
  | error cause =>
    rw [hcheck] at h
    cases h
    exact .unchecked hcheck
  | ok =>
    rw [hcheck] at h
    dsimp only at h ⊢
    cases hpave : t.makeDirectories a.stagingPath with
    | error cause =>
      rw [hpave] at h
      cases h
      rcases t.paveFront_cases [] (Tree.namesOf a.stagingPath) with
        hsame | ⟨front, back, place, hfront, hpave⟩
      · dsimp only
        rw [Tree.makeFront, hsame]
        exact .unbegun hcheck
      · exact .unmade hcheck hfront hpave
    | ok made =>
      obtain ⟨u, staging⟩ := made
      rw [hpave] at h
      dsimp only at h ⊢
      have hfresh := u.node?_freshName staging
      cases hcontent : content order data with
      | error cause =>
        rw [hcontent] at h
        cases h
        refine .unwritten hcheck hpave hfresh (fun file hfile => ?_) (.inl hcontent) fun place =>
          (node?_remove_set hfresh (.file [] false) place).symm
        rw [hcontent] at hfile
        cases hfile
      | ok file =>
        rw [hcontent] at h
        dsimp only at h ⊢
        obtain ⟨hleft, text, rfl⟩ := settle_eq_error h
        rw [hleft]
        exact .unmoved hcheck hpave hfresh hcontent fun _ => rfl

/-! Downloads -/

/-- How a download breaks off that could come to a transfer. -/
inductive BreaksOff (a : Artifacts) (w : Surroundings) (order : ArtifactOrder) :
    Surroundings → FetchFault → Prop
  | hidden {fault : FetchFault} (hpresent : a.isPresent w.files order.fileName = .error fault) :
      BreaksOff a w order w fault
  | unfetched {fault : FetchFault} (habsent : a.isPresent w.files order.fileName = .ok false)
      (hfetch : Fetches w.network order.url (.error fault)) :
      BreaksOff a w order ⟨w.files, (fetch w.network order.url).1⟩ fault
  | unstored {data : Bytes} {files : Tree} {fault : FetchFault}
      (habsent : a.isPresent w.files order.fileName = .ok false)
      (hfetch : Fetches w.network order.url (.ok data))
      (hleft : a.Abandons w.files order data files fault) :
      BreaksOff a w order ⟨files, (fetch w.network order.url).1⟩ fault

theorem breaksOff_of_transfer (habsent : a.isPresent w.files order.fileName = .ok false)
    (h : (a.transfer w order).2 = .error fault) :
    a.BreaksOff w order (a.transfer w order).1 fault := by
  unfold transfer at h ⊢
  dsimp only at h ⊢
  cases hfetch : (fetch w.network order.url).2 with
  | error cause =>
    rw [hfetch] at h
    cases h
    exact .unfetched habsent (fetch_eq_iff.1 hfetch)
  | ok data =>
    rw [hfetch] at h
    exact .unstored habsent (fetch_eq_iff.1 hfetch) (abandons_of_store h)

theorem breaksOff_of_obtain (h : (a.countLookup.obtain w order).2.2 = .error fault) :
    (a.countLookup.obtain w order).1 = a.countLookup ∧
      a.BreaksOff w order (a.countLookup.obtain w order).2.1 fault := by
  unfold Artifacts.obtain at h ⊢
  cases hpresent : a.countLookup.isPresent w.files order.fileName with
  | error cause =>
    rw [hpresent] at h
    cases h
    exact ⟨rfl, .hidden hpresent⟩
  | ok found =>
    rw [hpresent] at h
    cases found with
    | true => cases h
    | false =>
      dsimp only at h ⊢
      cases htransfer : (a.countLookup.transfer w order).2 with
      | error cause =>
        rw [htransfer] at h
        cases h
        have hbreaks : a.BreaksOff w order (a.transfer w order).1 fault :=
          breaksOff_of_transfer hpresent htransfer
        exact ⟨rfl, hbreaks⟩
      | ok =>
        rw [htransfer] at h
        cases h

/-- What a download of a valid name comes to. -/
theorem download_of_isValid (hname : FileName.isValid order.fileName = true) :
    a.download w order =
      match a.published? order.fileName with
      | some path => (a.countLookup.countHit, w, .ok path)
      | none => a.countLookup.obtain w order := by
  unfold download
  rw [hname]
  rfl

/-- A download that fails breaks off, and publishes nothing. -/
theorem breaksOff_of_download (hname : FileName.isValid order.fileName = true)
    (h : (a.download w order).2.2 = .error fault) :
    a.published? order.fileName = none ∧ (a.download w order).1 = a.countLookup ∧
      a.BreaksOff w order (a.download w order).2.1 fault := by
  rw [download_of_isValid hname] at h ⊢
  cases hpublished : a.published? order.fileName with
  | some path =>
    rw [hpublished] at h
    cases h
  | none =>
    rw [hpublished] at h
    exact ⟨rfl, breaksOff_of_obtain h⟩

/-- Files are not changed by a download that breaks off; only directories are new. -/
theorem BreaksOff.adds (h : a.BreaksOff w order w' fault) : Tree.Adds w.files w'.files := by
  cases h with
  | hidden => exact Tree.Adds.refl _
  | unfetched => exact Tree.Adds.refl _
  | unstored _ _ hleft => exact hleft.adds

theorem BreaksOff.find_eq (h : a.BreaksOff w order w' fault) (hplaced : a.IsWellPlaced w.files)
    (hname : FileName.isValid name = true) (hne : name ≠ stagingName) :
    w'.files.find (a.path name) = w.files.find (a.path name) := by
  cases h with
  | hidden => rfl
  | unfetched => rfl
  | unstored _ _ hleft => exact hleft.find_eq hplaced hname hne

theorem BreaksOff.isStraight (h : a.BreaksOff w order w' fault) (hstraight : a.IsStraight w.files) :
    a.IsStraight w'.files := by
  cases h with
  | hidden => exact hstraight
  | unfetched => exact hstraight
  | unstored _ _ hleft => exact hleft.isStraight hstraight

def asking (network : Net.Network) (order : ArtifactOrder) : Net.Network :=
  (network.send ⟨.get, order.url, []⟩).1

/-- A file that is wanted is asked for. -/
theorem Wants.network_eq (h : a.Wants w order) :
    (a.download w order).2.1.network = asking w.network order := by
  have habsent : a.countLookup.isPresent w.files order.fileName = .ok false := h.absent
  rw [download_of_isValid h.valid, h.unpublished]
  dsimp only
  unfold Artifacts.obtain transfer
  rw [habsent]
  dsimp only
  cases hfetch : (fetch w.network order.url).2 with
  | error cause => rfl
  | ok data =>
    dsimp only
    cases (a.countLookup.store w.files order data).2 <;> rfl

/-- A file that is transferred is stored. -/
theorem Wants.exists_store (h : a.Wants w order) (hpath : (a.download w order).2.2 = .ok path) :
    ∃ data, Fetches w.network order.url (.ok data) ∧ (a.store w.files order data).2 = .ok () ∧
      path = a.path order.fileName ∧
        (a.download w order).1 = a.countLookup.publish order.fileName ∧
          (a.download w order).2.1.files = (a.store w.files order data).1 := by
  have habsent : a.countLookup.isPresent w.files order.fileName = .ok false := h.absent
  rw [download_of_isValid h.valid, h.unpublished] at hpath ⊢
  dsimp only at hpath ⊢
  unfold Artifacts.obtain transfer at hpath ⊢
  rw [habsent] at hpath ⊢
  dsimp only at hpath ⊢
  cases hfetch : (fetch w.network order.url).2 with
  | error cause =>
    rw [hfetch] at hpath
    cases hpath
  | ok data =>
    rw [hfetch] at hpath
    dsimp only at hpath ⊢
    cases hstore : (a.countLookup.store w.files order data).2 with
    | error cause =>
      rw [hstore] at hpath
      cases hpath
    | ok =>
      rw [hstore] at hpath
      exact ⟨data, fetch_eq_iff.1 hfetch, hstore, (Except.ok.inj hpath).symm, rfl, rfl⟩

/-- A file that is transferred is at its path. -/
theorem Wants.exists_holds (h : a.Wants w order) (hpath : (a.download w order).2.2 = .ok path) :
    path = a.path order.fileName ∧ ∃ data file, Fetches w.network order.url (.ok data) ∧
      a.Holds (a.download w order).2.1.files order data file := by
  obtain ⟨data, hfetch, hstore, hpath, -, hfiles⟩ := h.exists_store hpath
  obtain ⟨file, hholds⟩ := holds_of_store hstore
  rw [hfiles]
  exact ⟨hpath, data, file, hfetch, hholds⟩

structure IsFileOf (order : ArtifactOrder) (data file : Bytes) : Prop where
  plain : isArchive order = false → file = data
  archive : isArchive order = true → Archive.IsProgram data file
  hash : ∀ sha256, order.sha256 = some sha256 → Hex.decode sha256 = .ok (Sha256.digest data)

theorem Holds.isFileOf (h : a.Holds t order data file) : IsFileOf order data file := by
  refine ⟨h.file_eq, fun harchive => ?_, fun sha256 => h.hash⟩
  have hcontent := h.content
  unfold Artifacts.content at hcontent
  rw [if_pos harchive] at hcontent
  cases hprogram : Archive.program data with
  | error cause =>
    rw [hprogram] at hcontent
    cases cause <;> cases hcontent
  | ok program =>
    rw [hprogram] at hcontent
    cases hcontent
    exact Archive.isProgram_of_program hprogram

/-- A file that was wanted when its download broke off is wanted again. -/
theorem BreaksOff.wants (h : a.BreaksOff w order w' fault) (hwants : a.Wants w order)
    (hplaced : a.IsWellPlaced w.files) (hne : order.fileName ≠ stagingName)
    (horder : order'.fileName = order.fileName) (network : Net.Network) :
    a.countLookup.Wants ⟨w'.files, network⟩ order' := by
  have hfind := h.find_eq hplaced hwants.valid hne
  refine ⟨horder ▸ hwants.valid, horder ▸ hwants.unpublished, ?_⟩
  rw [horder]
  exact (isPresent_of_find hfind).trans hwants.absent

/-- A download that fails breaks off and publishes nothing. One that breaks off changes
no file, wherever the system refuses to go on: directories are all that is new. If the
directory of the files is well placed, what the names in it lead to is as before, and a
file that was to be transferred is asked for again by the next download. A file that was
transferred is what was fetched, or the first program in it, and the fetched data has
the hash of the order. -/
theorem failed_download_changes_nothing (a : Artifacts) (w : Surroundings) {order : ArtifactOrder}
    (hname : FileName.isValid order.fileName = true) (hne : order.fileName ≠ stagingName) :
    (∀ fault, (a.download w order).2.2 = .error fault →
      a.published? order.fileName = none ∧ (a.download w order).1 = a.countLookup ∧
        a.BreaksOff w order (a.download w order).2.1 fault) ∧
    (∀ w' fault, a.BreaksOff w order w' fault →
      Tree.Adds w.files w'.files ∧
      (a.IsWellPlaced w.files →
        (∀ name, FileName.isValid name = true → name ≠ stagingName →
          w'.files.find (a.path name) = w.files.find (a.path name)) ∧
        (a.Wants w order → ∀ order' network, order'.fileName = order.fileName →
          (a.countLookup.download ⟨w'.files, network⟩ order').2.1.network =
            asking network order'))) ∧
    (a.Wants w order → ∀ path, (a.download w order).2.2 = .ok path →
      path = a.path order.fileName ∧ ∃ data file, Fetches w.network order.url (.ok data) ∧
        IsFileOf order data file ∧ (a.download w order).2.1.files.read path = .ok file) := by
  refine ⟨fun fault h => breaksOff_of_download hname h, fun w' fault h => ⟨h.adds, ?_⟩, ?_⟩
  · intro hplaced
    refine ⟨fun name hvalid hother => h.find_eq hplaced hvalid hother, ?_⟩
    intro hwants order' network horder
    exact (h.wants hwants hplaced hne horder network).network_eq
  · intro hwants path hpath
    obtain ⟨rfl, data, file, hfetch, hholds⟩ := hwants.exists_holds hpath
    exact ⟨rfl, data, file, hfetch, hholds.isFileOf, hholds.read⟩

/-! A directory with one file in it -/

def orderFor (name : String) : ArtifactOrder where
  url := { scheme := "http", host := some (.domain "bin"), path := "/" ++ name }
  fileName := "x"
  executable := false
  sha256 := none

def besides (file name : String) (content : Bytes) : Surroundings where
  files := (Tree.empty.set ["cache"] .directory).set ["cache", file] (.file [7] false)
  network := .scripted [("http://bin/" ++ name, [.response ⟨200, content⟩])]

/-- Half of a file is written when the system refuses to go on. -/
theorem half_written_download_repeated :
    let a := inDirectory "cache"
    let w := besides "y" "x" [65, 66]
    let full := FetchFault.file "No space left on device (os error 28)"
    (∃ w', a.BreaksOff w (orderFor "x") w' full ∧
      w'.files.find "cache/y" = .ok (.file [7] false) ∧
        (a.countLookup.download ⟨w'.files, w.network⟩ (orderFor "x")).2.1.network =
          asking w.network (orderFor "x")) ∧
      (a.download w (orderFor "x")).2.1.files.read "cache/x" = .ok [65, 66] := by
  intro a w full
  have hhome : a.IsHome w.files ["cache"] := ⟨by decide +kernel, by decide +kernel⟩
  have hwants : a.Wants w (orderFor "x") := ⟨by decide, rfl, by decide +kernel⟩
  have hfetch : Fetches w.network (orderFor "x").url (.ok [65, 66]) :=
    fetch_eq_iff.1 (by decide +kernel)
  obtain ⟨⟨u, staging⟩, hpave⟩ : ∃ made, w.files.makeDirectories a.stagingPath = .ok made := by
    have hmade : (w.files.makeDirectories a.stagingPath).toOption.isSome = true := by decide +kernel
    cases hpave : w.files.makeDirectories a.stagingPath with
    | error fault =>
      rw [hpave] at hmade
      cases hmade
    | ok made => exact ⟨made, rfl⟩
  have hfresh := u.node?_freshName staging
  generalize staging ++ [u.freshName staging] = staged at hfresh
  have hleft : a.Abandons w.files (orderFor "x") [65, 66]
      ((u.set staged (.file [65] false)).remove staged) full := by
    refine .unwritten rfl hpave hfresh ?_ (.inr ⟨_, rfl⟩) fun _ => rfl
    intro file hfile
    cases hfile
    exact ⟨[66], rfl⟩
  have hbreaks := BreaksOff.unstored hwants.absent hfetch hleft
  obtain ⟨-, hspares, hbrings⟩ := failed_download_changes_nothing a w
    (show FileName.isValid (orderFor "x").fileName = true by decide)
    (show (orderFor "x").fileName ≠ stagingName by decide)
  obtain ⟨-, hplaced⟩ := hspares _ _ hbreaks
  obtain ⟨hfind, hagain⟩ := hplaced hhome.isWellPlaced
  have hpath : (a.download w (orderFor "x")).2.2 = .ok "cache/x" := by decide +kernel
  obtain ⟨-, data, file, hfetched, hfile, hread⟩ := hbrings hwants _ hpath
  have hdata : Except.ok data = Except.ok [65, 66] :=
    (fetch_eq_iff.2 hfetched).symm.trans (fetch_eq_iff.2 hfetch)
  refine ⟨⟨_, hbreaks, ?_, hagain hwants (orderFor "x") w.network rfl⟩, ?_⟩
  · rw [← show a.path "y" = "cache/y" by decide, hfind "y" (by decide) (by decide)]
    decide +kernel
  · rw [← Except.ok.inj hdata, ← hfile.plain rfl]
    exact hread

/-- A failed download can make the path of a file lead to it. -/
theorem file_uncovered_by_failure :
    let a := inDirectory "nope/../cache"
    let w := besides "x" "x.zip" [1]
    let failed := a.download w (orderFor "x.zip")
    let again := failed.1.download failed.2.1 (orderFor "x.zip")
    w.files.find "nope/../cache/x" = .error .notFound ∧
      failed.2.2 = .error (.archive "invalid Zip archive") ∧
      failed.2.1.files.find "nope/../cache/x" = .ok (.file [7] false) ∧
      again.2.2 = .ok "nope/../cache/x" ∧
      again.2.1.network.asked.length = failed.2.1.network.asked.length := by
  decide +kernel

end Artifacts

end Provenance
