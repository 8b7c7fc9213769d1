import Mathlib
import Provenance.Files.Tree

/-!
What changes of a file tree leave alone. A tree that keeps what another has
finds the same places along the same paths. Making the directories of a path
keeps everything, and behind the last directory that was there it adds nothing
but the rest of the path, as long as the path does not go up again.
-/

namespace Provenance.Files.Tree

variable {t u v : Tree} {place other q : Place} {name : String} {names : List String}

theorem lookup_map_replace {place other : Place} (node : Node) (entries : List (Place × Node)) :
    (entries.map fun entry => if entry.1 = place then (place, node) else entry).lookup other =
      if other = place then (entries.lookup place).map fun _ => node
      else entries.lookup other := by
  induction entries with
  | nil => simp
  | cons entry entries ih =>
    obtain ⟨key, old⟩ := entry
    by_cases hkey : key = place
    · subst hkey
      by_cases hother : other = key
      · subst hother
        simp
      · simpa [List.lookup_cons, beq_eq_false_iff_ne.2 hother, hother] using ih
    · simp only [List.map_cons, if_neg hkey, List.lookup_cons, ih]
      by_cases hother : other = place
      · subst hother
        simp [beq_eq_false_iff_ne.2 (Ne.symm hkey)]
      · simp [hother]

theorem node?_set (t : Tree) (place other : Place) (node : Node) :
    (t.set place node).node? other = if other = place then some node else t.node? other := by
  unfold set node?
  split
  · rename_i hsome
    obtain ⟨old, hold⟩ := Option.isSome_iff_exists.1 hsome
    rw [lookup_map_replace, hold]
    rfl
  · rename_i hnone
    rw [List.lookup_append]
    by_cases hother : other = place
    · subst hother
      simp [Option.not_isSome_iff_eq_none.1 hnone]
    · simp [hother, List.lookup_cons, beq_eq_false_iff_ne.2 hother]

theorem node?_remove (t : Tree) (place other : Place) :
    (t.remove place).node? other = if other = place then none else t.node? other := by
  obtain ⟨entries⟩ := t
  unfold remove node?
  induction entries with
  | nil => simp
  | cons entry entries ih =>
    obtain ⟨key, old⟩ := entry
    by_cases hkey : key = place
    · subst hkey
      by_cases hother : other = key
      · subst hother
        simpa using ih
      · simpa [List.lookup_cons, beq_eq_false_iff_ne.2 hother, hother] using ih
    · by_cases hother : other = place
      · subst hother
        simpa [hkey, List.lookup_cons, beq_eq_false_iff_ne.2 (Ne.symm hkey)] using ih
      · simp only [List.filter_cons, hkey, ne_eq, not_false_eq_true, decide_true, if_true,
          List.lookup_cons, hother, if_false] at ih ⊢
        rw [ih]

theorem node?_move {source target : Place} (h : t.move source target = .ok u) :
    ∃ node, t.node? source = some node ∧ t.node? target ≠ some .directory ∧
      ∀ other, u.node? other =
        if other = target then some node else if other = source then none else t.node? other := by
  unfold move at h
  split at h
  case h_5 node hsource hparent htarget =>
    cases h
    refine ⟨node, hsource, htarget, fun other => ?_⟩
    rw [node?_set, node?_remove]
  all_goals cases h

/-- A file can be moved to where no directory is. -/
theorem exists_move {source target : Place} {node : Node} (hsource : t.node? source = some node)
    (htarget : t.node? target ≠ some .directory)
    (hparent : t.node? target.dropLast = some .directory) : ∃ u, t.move source target = .ok u := by
  unfold move
  rw [hsource, hparent]
  split
  case h_5 => exact ⟨_, rfl⟩
  all_goals simp_all

/-- A fresh name is the name of nothing: there are more candidates than entries. -/
theorem node?_freshName (t : Tree) (place : Place) :
    t.node? (place ++ [t.freshName place]) = none := by
  unfold freshName
  generalize hnames : (List.range (t.entries.length + 1)).map (fun n => ".tmp" ++ toString n) = names
  cases hfind : names.find? fun name => (t.node? (place ++ [name])).isNone with
  | some name =>
    simp only [hfind, Option.getD_some]
    simpa using List.find?_some hfind
  | none =>
    exfalso
    have hall : ∀ name ∈ names, place ++ [name] ∈ t.entries.map Prod.fst := by
      intro name hname
      have hsome := List.find?_eq_none.1 hfind name hname
      rw [Option.isNone_iff_eq_none, ← ne_eq, Option.ne_none_iff_isSome, node?,
        List.lookup_isSome_iff] at hsome
      obtain ⟨entry, hentry, hkey⟩ := hsome
      exact List.mem_map.2 ⟨entry, hentry, (beq_iff_eq.1 hkey).symm⟩
    have hinjective : Function.Injective fun n : Nat => place ++ [".tmp" ++ toString n] := by
      intro m n hmn
      simpa [String.append_right_inj, Nat.repr_inj] using hmn
    have hnodup : (names.map fun name => place ++ [name]).Nodup := by
      rw [← hnames, List.map_map]
      exact List.Nodup.map hinjective List.nodup_range
    have hle := (hnodup.subperm fun other hother => by
      obtain ⟨name, hname, rfl⟩ := List.mem_map.1 hother
      exact hall name hname).length_le
    rw [← hnames] at hle
    simp at hle

/-- Whatever is in the first tree is in the second, and directories stay so. -/
structure Keeps (t u : Tree) : Prop where
  directory : ∀ {place}, t.node? place = some .directory → u.node? place = some .directory
  isSome : ∀ {place}, (t.node? place).isSome → (u.node? place).isSome

theorem Keeps.refl (t : Tree) : Keeps t t := ⟨id, id⟩

theorem Keeps.trans (h : Keeps t u) (h' : Keeps u v) : Keeps t v :=
  ⟨fun hplace => h'.directory (h.directory hplace), fun hplace => h'.isSome (h.isSome hplace)⟩

theorem keeps_of_node? (h : ∀ place, u.node? place = t.node? place) : Keeps t u :=
  ⟨fun hplace => (h _).trans hplace, fun hplace => by rwa [h]⟩

/-- A new node keeps what is there. -/
theorem keeps_set {node : Node} (hplace : t.node? place = none) : Keeps t (t.set place node) := by
  have hother {other : Place} (h : t.node? other ≠ none) :
      (t.set place node).node? other = t.node? other := by
    rw [node?_set, if_neg]
    rintro rfl
    exact h hplace
  refine ⟨fun {other} hdirectory => ?_, fun {other} hsome => ?_⟩
  · rw [hother (by simp [hdirectory]), hdirectory]
  · rwa [hother (Option.isSome_iff_ne_none.1 hsome)]

/-! Paths -/

def marks : List String := ["", ".", ".."]

def toward (place : Place) (name : String) : Place :=
  if name = "" ∨ name = "." then place else if name = ".." then place.dropLast
  else place ++ [name]

def Fits (name : String) : Prop := name ∈ marks ∨ name.utf8ByteSize ≤ maxName

theorem toward_of_plain (place : Place) (hname : name ∉ marks) :
    toward place name = place ++ [name] := by
  simp only [marks, List.mem_cons, List.not_mem_nil, or_false, not_or] at hname
  rw [toward, if_neg (by simp [hname]), if_neg hname.2.2]

theorem walk_of_directory (hplace : t.node? place = some .directory) :
    t.walk place (name :: names) =
      if name ∉ marks ∧ maxName < name.utf8ByteSize then .error .nameTooLong
      else t.walk (toward place name) names := by
  rw [walk]
  unfold toward marks
  by_cases hpoint : name = "" ∨ name = "."
  · rcases hpoint with rfl | rfl <;> simp [hplace]
  · by_cases hup : name = ".."
    · subst hup
      simp [hplace]
    · simp [hplace, hup, not_or.1 hpoint]

theorem walk_cons_eq_ok : t.walk place (name :: names) = .ok q ↔
    t.node? place = some .directory ∧ Fits name ∧ t.walk (toward place name) names = .ok q := by
  cases hplace : t.node? place with
  | none => simp [walk, hplace]
  | some node =>
    cases node with
    | file => simp [walk, hplace]
    | directory =>
      rw [walk_of_directory hplace, Fits]
      by_cases hmark : name ∈ marks
      · simp [hmark]
      · by_cases hlong : maxName < name.utf8ByteSize
        · simp [hmark, hlong, Nat.not_le.2 hlong]
        · simp [hlong, Nat.not_lt.1 hlong]

/-- From a directory a walk goes toward the next name. -/
theorem walk_cons_of_directory (hplace : t.node? place = some .directory) (hfits : Fits name) :
    t.walk place (name :: names) = t.walk (toward place name) names := by
  rw [walk_of_directory hplace, if_neg]
  rintro ⟨hplain, hlong⟩
  exact hfits.elim hplain (Nat.not_le.2 hlong)

theorem walk_append (t : Tree) (place : Place) (front back : List String) :
    t.walk place (front ++ back) = t.walk place front >>= fun next => t.walk next back := by
  induction front generalizing place with
  | nil => rfl
  | cons name front ih =>
    rw [List.cons_append, walk, walk]
    cases t.node? place with
    | none => rfl
    | some node =>
      cases node with
      | file => rfl
      | directory =>
        simp only [ih]
        split_ifs <;> rfl

/-- Where nothing is, no name leads on. -/
theorem walk_of_missing (hplace : t.node? place = none) (hnames : names ≠ []) :
    t.walk place names = .error .notFound := by
  cases names with
  | nil => exact absurd rfl hnames
  | cons name names => rw [walk, hplace]

/-- Without going up a walk stays below the place where it begins. -/
theorem prefix_of_walk (hnames : ".." ∉ names) (h : t.walk place names = .ok q) :
    place <+: q := by
  induction names generalizing place with
  | nil =>
    cases h
    exact List.prefix_refl _
  | cons name names ih =>
    obtain ⟨-, -, hrest⟩ := walk_cons_eq_ok.1 h
    obtain ⟨hname, hnames⟩ := not_or.1 (mt List.mem_cons.2 hnames)
    refine List.IsPrefix.trans ?_ (ih hnames hrest)
    unfold toward
    split_ifs with hpoint hup
    · exact List.prefix_refl _
    · exact absurd hup.symm hname
    · exact List.prefix_append _ _

/-- Of the tree, a walk needs the directories alone. -/
theorem walk_of_directories
    (h : ∀ {place}, t.node? place = some .directory → u.node? place = some .directory)
    (hwalk : t.walk place names = .ok q) : u.walk place names = .ok q := by
  induction names generalizing place with
  | nil => exact hwalk
  | cons name names ih =>
    obtain ⟨hplace, hfits, hrest⟩ := walk_cons_eq_ok.1 hwalk
    exact walk_cons_eq_ok.2 ⟨h hplace, hfits, ih hrest⟩

theorem locate_of_directories {path : String}
    (h : ∀ {place}, t.node? place = some .directory → u.node? place = some .directory)
    (hlocate : t.locate path = .ok place) : u.locate path = .ok place := by
  unfold locate at hlocate ⊢
  split_ifs at hlocate ⊢
  exact walk_of_directories h hlocate

theorem exists?_eq_true_iff {path : String} : t.exists? path = .ok true ↔
    ∃ place, t.locate path = .ok place ∧ (t.node? place).isSome := by
  unfold exists? find
  cases hlocate : t.locate path with
  | error fault => cases fault <;> simp [bind, Except.bind]
  | ok place =>
    cases hnode : t.node? place <;> simp [bind, Except.bind, hnode]

/-- A path that leads to something goes on leading to something. -/
theorem exists?_keeps {path : String} (h : Keeps t u) (hpath : t.exists? path = .ok true) :
    u.exists? path = .ok true := by
  obtain ⟨place, hlocate, hsome⟩ := exists?_eq_true_iff.1 hpath
  exact exists?_eq_true_iff.2 ⟨place, locate_of_directories h.directory hlocate, h.isSome hsome⟩

def leads? (t : Tree) (names : List String) : Except Fault Bool :=
  match t.walk [] names with
  | .ok place => .ok (t.node? place).isSome
  | .error .notFound => .ok false
  | .error fault => .error fault

theorem exists?_eq (t : Tree) (path : String) : t.exists? path =
    if path.isEmpty then .ok false else if path.toList.contains '\x00' then .error .badName
    else if maxPath < path.utf8ByteSize then .error .nameTooLong
    else t.leads? (namesOf path) := by
  unfold exists? find locate leads?
  split_ifs
  · rfl
  · rfl
  · rfl
  · cases hwalk : t.walk [] (namesOf path) with
    | error fault => cases fault <;> rfl
    | ok place => cases hnode : t.node? place <;> simp [bind, Except.bind, hnode]

/-- Of a tree, a path sees only where its names lead. -/
theorem exists?_congr {path : String} (h : t.leads? (namesOf path) = u.leads? (namesOf path)) :
    t.exists? path = u.exists? path := by
  rw [exists?_eq, exists?_eq, h]

/-- A path that can be looked up in one tree can be walked in any. -/
theorem locate_eq_walk {path : String} {found : Bool} (h : t.exists? path = .ok found)
    (hpath : path ≠ "") (u : Tree) : u.locate path = u.walk [] (namesOf path) := by
  rw [exists?_eq, if_neg (by simpa using hpath)] at h
  rw [locate, if_neg (by simpa using hpath)]
  split_ifs at h ⊢
  rfl

theorem leads?_of_exists? {path : String} {found : Bool} (h : t.exists? path = .ok found)
    (hpath : path ≠ "") : t.leads? (namesOf path) = .ok found := by
  rw [exists?_eq, if_neg (by simpa using hpath)] at h
  split_ifs at h
  exact h

theorem namesOf_of_plain {name : String} (hname : '/' ∉ name.toList) : namesOf name = [name] := by
  have hall : ∀ c ∈ name.toList, decide (c = '/') = false := by
    intro c hc
    rw [decide_eq_false_iff_not]
    rintro rfl
    exact hname hc
  rw [namesOf, List.splitOnP_eq_singleton hall]
  simp

theorem namesOf_append_slash (front : List Char) (name : String) (hname : '/' ∉ name.toList) :
    namesOf (String.ofList (front ++ '/' :: name.toList)) =
      namesOf (String.ofList front) ++ [name] := by
  have hone := namesOf_of_plain hname
  unfold namesOf at hone ⊢
  rw [String.toList_ofList, List.splitOnP_append_cons _ _ (by decide), List.map_append, hone,
    String.toList_ofList]

/-- The files of a directory are found along its names and their own. A separator at
its end adds no name. -/
theorem exists_namesOf_joinPath (directory : String) :
    ∃ above, (namesOf directory = above ∨ namesOf directory = above ++ [""]) ∧
      ∀ name, '/' ∉ name.toList → namesOf (joinPath directory name) = above ++ [name] := by
  have hhead {name : String} (hname : '/' ∉ name.toList) : name.toList.head? ≠ some '/' :=
    fun h => hname (List.mem_of_head? h)
  by_cases hempty : directory.isEmpty = true
  · refine ⟨[], .inr ?_, fun name hname => ?_⟩
    · rw [String.isEmpty_iff.1 hempty]
      rfl
    · rw [joinPath, if_pos (by simp [hempty]), namesOf_of_plain hname, List.nil_append]
  · by_cases hlast : directory.toList.getLast? = some '/'
    · obtain ⟨front, hfront⟩ := List.getLast?_eq_some_iff.1 hlast
      have hdirectory : directory = String.ofList (front ++ ['/']) := by
        rw [← hfront, String.ofList_toList]
      refine ⟨namesOf (String.ofList front), .inr ?_, fun name hname => ?_⟩
      · rw [hdirectory]
        exact namesOf_append_slash front "" (by decide)
      · rw [joinPath, if_neg (by simp [hempty, hhead hname]), if_pos hlast, hdirectory,
          ← namesOf_append_slash front name hname]
        exact congrArg namesOf (String.toList_inj.1 (by simp))
    · refine ⟨namesOf directory, .inl rfl, fun name hname => ?_⟩
      have hslash := namesOf_append_slash directory.toList name hname
      rw [String.ofList_toList] at hslash
      rw [joinPath, if_neg (by simp [hempty, hhead hname]), if_neg hlast, ← hslash]
      exact congrArg namesOf (String.toList_inj.1 (by simp))

/-! Making the directories of a path -/

def paveOne (t : Tree) (place : Place) (name : String) : Tree :=
  if name ∈ marks ∨ (t.node? (place ++ [name])).isSome then t
  else t.set (place ++ [name]) .directory

theorem paveOne_keeps (t : Tree) (place : Place) (name : String) :
    Keeps t (t.paveOne place name) := by
  unfold paveOne
  split_ifs with h
  · exact Keeps.refl t
  · exact keeps_set (Option.not_isSome_iff_eq_none.1 (not_or.1 h).2)

theorem pave_cons_of_directory (hplace : t.node? place = some .directory) (hname : Fits name) :
    t.pave place (name :: names) = (t.paveOne place name).pave (toward place name) names := by
  rw [pave, hplace]
  unfold toward paveOne
  by_cases hpoint : name = "" ∨ name = "."
  · rw [if_pos hpoint]
    rcases hpoint with rfl | rfl <;> simp [marks]
  · obtain ⟨hempty, hdot⟩ := not_or.1 hpoint
    rw [if_neg hpoint]
    by_cases hup : name = ".."
    · subst hup
      simp [marks]
    · have hplain : name ∉ marks := by simp [marks, hempty, hdot, hup]
      have hlength : name.utf8ByteSize ≤ maxName := hname.resolve_left hplain
      simp [hempty, hdot, hup, hplain, Nat.not_lt.2 hlength]

theorem pave_cons_eq_ok {result : Tree × Place} : t.pave place (name :: names) = .ok result ↔
    t.node? place = some .directory ∧ Fits name ∧
      (t.paveOne place name).pave (toward place name) names = .ok result := by
  cases hplace : t.node? place with
  | none => simp [pave, hplace]
  | some node =>
    cases node with
    | file => simp [pave, hplace]
    | directory =>
      by_cases hname : Fits name
      · simp [pave_cons_of_directory hplace hname, hname]
      · obtain ⟨hplain, hlength⟩ := not_or.1 hname
        simp only [marks, List.mem_cons, List.not_mem_nil, or_false, not_or] at hplain
        simp [pave, hplace, hplain, Nat.not_le.1 hlength, hname]

/-- Making directories keeps everything, and leads to a directory along the path. -/
theorem pave_eq_ok (h : t.pave place names = .ok (u, q)) :
    Keeps t u ∧ u.walk place names = .ok q ∧ u.node? q = some .directory := by
  induction names generalizing t place with
  | nil =>
    rw [pave] at h
    cases hplace : t.node? place with
    | none => simp [hplace] at h
    | some node =>
      cases node with
      | file => simp [hplace] at h
      | directory =>
        simp only [hplace, Except.ok.injEq, Prod.mk.injEq] at h
        obtain ⟨rfl, rfl⟩ := h
        exact ⟨Keeps.refl t, rfl, hplace⟩
  | cons name names ih =>
    obtain ⟨hplace, hfits, hrest⟩ := pave_cons_eq_ok.1 h
    obtain ⟨hkeeps, hwalk, hdirectory⟩ := ih hrest
    have hall := (t.paveOne_keeps place name).trans hkeeps
    exact ⟨hall, walk_cons_eq_ok.2 ⟨hall.directory hplace, hfits, hwalk⟩, hdirectory⟩

/-- Where the directories are, there are none to make. -/
theorem pave_of_walk (h : t.walk place names = .ok q) (hq : t.node? q = some .directory) :
    t.pave place names = .ok (t, q) := by
  induction names generalizing place with
  | nil =>
    cases h
    rw [pave, hq]
  | cons name names ih =>
    obtain ⟨hplace, hfits, hrest⟩ := walk_cons_eq_ok.1 h
    have hstep : t.paveOne place name = t := by
      unfold paveOne
      rw [if_pos]
      by_contra hmissing
      obtain ⟨hname, hnode⟩ := not_or.1 hmissing
      rw [toward_of_plain place hname] at hrest
      have hnone := Option.not_isSome_iff_eq_none.1 hnode
      cases names with
      | nil =>
        cases hrest
        simp [hnone] at hq
      | cons => simp [walk_of_missing hnone] at hrest
    exact pave_cons_eq_ok.2 ⟨hplace, hfits, by rw [hstep]; exact ih hrest⟩

/-- Without going up, the new directories are on the way to the last one. -/
theorem node?_pave (hnames : ".." ∉ names) (h : t.pave place names = .ok (u, q))
    (hother : (u.node? other).isSome) : (t.node? other).isSome ∨ other <+: q := by
  induction names generalizing t place with
  | nil =>
    rw [pave] at h
    split at h
    · cases h
    · cases h
    · cases h
      exact .inl hother
  | cons name names ih =>
    obtain ⟨-, -, hrest⟩ := pave_cons_eq_ok.1 h
    obtain ⟨hname, hnames⟩ := not_or.1 (mt List.mem_cons.2 hnames)
    rcases ih hnames hrest with hsome | hprefix
    · unfold paveOne at hsome
      split_ifs at hsome with hthere
      · exact .inl hsome
      · rw [node?_set] at hsome
        split_ifs at hsome with heq
        · subst heq
          have hway := prefix_of_walk hnames (pave_eq_ok hrest).2.1
          rw [toward_of_plain place (not_or.1 hthere).1] at hway
          exact .inr hway
        · exact .inl hsome
    · exact .inr hprefix

/-- Beside the last directory of a path nothing is made. -/
theorem node?_pave_beside {home : Place} {last : String} (hnames : ".." ∉ names)
    (h : t.pave place names = .ok (u, home ++ [last])) (hne : name ≠ last) :
    (u.node? (home ++ [name])).isSome = (t.node? (home ++ [name])).isSome := by
  refine Bool.eq_iff_iff.2 ⟨fun hsome => ?_, (pave_eq_ok h).1.isSome⟩
  rcases node?_pave hnames h hsome with hthere | hprefix
  · exact hthere
  · have heq := hprefix.eq_of_length (by simp)
    simp [hne] at heq

/-- Where the path leaves the tree, nothing is behind, and it does not go up again. -/
def Straight (t : Tree) (place : Place) (names : List String) : Prop :=
  ∀ front back missing, names = front ++ back → t.walk place front = .ok missing →
    t.node? missing = none → ".." ∉ back ∧ ∀ below, t.node? (missing ++ below) = none

theorem Straight.of_append {back : List String} (h : Straight t place (names ++ back)) :
    Straight t place names := by
  rintro front rest missing rfl hwalk hmissing
  obtain ⟨hup, hbelow⟩ := h front (rest ++ back) missing (List.append_assoc ..) hwalk hmissing
  exact ⟨fun hmem => hup (List.mem_append_left _ hmem), hbelow⟩

/-- A path to what is there is straight. -/
theorem Straight.of_walk (h : t.walk place names = .ok q) (hq : (t.node? q).isSome) :
    Straight t place names := by
  rintro front back missing rfl hwalk hmissing
  rw [walk_append, hwalk] at h
  cases back with
  | nil =>
    cases h
    simp [hmissing] at hq
  | cons name back =>
    have hfound : t.walk missing (name :: back) = .ok q := h
    rw [walk_of_missing hmissing (List.cons_ne_nil _ _)] at hfound
    cases hfound

/-- The last of several names leads into a directory. -/
theorem exists_home_of_walk {above : List String} {last : String}
    (h : t.walk place (above ++ [last]) = .ok q) (hlast : last ∉ marks) :
    ∃ home, q = home ++ [last] ∧ t.walk place above = .ok home ∧
      t.node? home = some .directory := by
  rw [walk_append] at h
  cases hhome : t.walk place above with
  | error fault =>
    rw [hhome] at h
    cases h
  | ok home =>
    rw [hhome] at h
    obtain ⟨hdirectory, -, hend⟩ := walk_cons_eq_ok.1 h
    rw [toward_of_plain home hlast] at hend
    exact ⟨home, (Except.ok.inj hend).symm, rfl, hdirectory⟩

/-- The last directory that is made stands in another. -/
theorem exists_home_of_pave {above : List String} {last : String}
    (h : t.pave place (above ++ [last]) = .ok (u, q)) (hlast : last ∉ marks) :
    ∃ home, q = home ++ [last] ∧ u.walk place above = .ok home ∧
      u.node? home = some .directory :=
  exists_home_of_walk (pave_eq_ok h).2.1 hlast

theorem Straight.tail (h : Straight t place (name :: names))
    (hplace : t.node? place = some .directory) (hfits : Fits name) :
    Straight t (toward place name) names := by
  rintro front back missing rfl hwalk hmissing
  exact h (name :: front) back missing rfl (walk_cons_eq_ok.2 ⟨hplace, hfits, hwalk⟩) hmissing

/-- The directories of a straight path are made without anything else that the
names of the last of them could lead to. -/
theorem Straight.leads {above : List String} {home : Place} {last : String}
    (h : Straight t place above) (hpave : t.pave place (above ++ [last]) = .ok (u, home ++ [last]))
    (habove : u.walk place above = .ok home) (hlast : last ∉ marks) (hname : name ∉ marks)
    (hfits : Fits name) (hne : name ≠ last) :
    t.walk place (above ++ [name]) = .ok (home ++ [name]) ∧
        (u.node? (home ++ [name])).isSome = (t.node? (home ++ [name])).isSome ∨
      t.walk place (above ++ [name]) = .error .notFound ∧ u.node? (home ++ [name]) = none := by
  have hup : ".." ≠ last := by
    rintro rfl
    exact hlast (by decide)
  induction above generalizing t place with
  | nil =>
    cases habove
    obtain ⟨hplace, -, -⟩ := pave_cons_eq_ok.1 hpave
    refine .inl ⟨?_, node?_pave_beside (by simpa using hup) hpave hne⟩
    rw [List.nil_append, walk_cons_of_directory hplace hfits, toward_of_plain _ hname, walk]
  | cons n above ih =>
    obtain ⟨hplace, hn, hrest⟩ := pave_cons_eq_ok.1 hpave
    obtain ⟨-, -, hwalk⟩ := walk_cons_eq_ok.1 habove
    rw [List.cons_append, walk_cons_of_directory hplace hn]
    unfold paveOne at hrest
    split_ifs at hrest with hthere
    · exact ih (h.tail hplace hn) hrest hwalk
    · -- From here on nothing is there, so the new directories are all below.
      obtain ⟨hplain, hmissing⟩ := not_or.1 hthere
      have hmissing := Option.not_isSome_iff_eq_none.1 hmissing
      rw [toward_of_plain place hplain] at hrest hwalk ⊢
      have hway : t.walk place [n] = .ok (place ++ [n]) := by
        rw [walk_cons_of_directory hplace hn, toward_of_plain place hplain, walk]
      obtain ⟨habove, hbelow⟩ := h [n] above _ rfl hway hmissing
      refine .inr ⟨walk_of_missing hmissing (by simp), ?_⟩
      have hbeside := node?_pave_beside (by simp [habove, hup]) hrest hne
      obtain ⟨below, rfl⟩ := prefix_of_walk habove hwalk
      rw [node?_set, if_neg (by simp), List.append_assoc (place ++ [n]), hbelow] at hbeside
      rw [List.append_assoc (place ++ [n])]
      simpa using hbeside

end Provenance.Files.Tree
