import Provenance.Proofs.Files.Soundness

/-!
Writing files. A path that can be written to leads to a place which is no directory, and
only this place changes. Names that do not lead along it lead to what they led to before.
-/

namespace Provenance.Files.Tree

variable {t u : Tree} {place home : Place} {name path : String} {names : List String}
  {content : Bytes}

def target (t : Tree) (path : String) : Except Fault Place := do
  let place ← t.locate path
  if t.node? place = some .directory then .error .isDirectory else .ok place

def modeAt (t : Tree) (place : Place) : Bool :=
  match t.node? place with
  | some (.file _ executable) => executable
  | _ => false

theorem target_eq_ok_iff : t.target path = .ok place ↔
    t.locate path = .ok place ∧ t.node? place ≠ some .directory := by
  unfold target
  cases t.locate path with
  | error fault => simp [bind, Except.bind]
  | ok found =>
    simp only [bind, Except.bind, Except.ok.injEq]
    split_ifs with hdirectory
    · simp only [false_iff, not_and, not_not]
      rintro rfl
      exact hdirectory
    · rw [Except.ok.injEq]
      constructor
      · rintro rfl
        exact ⟨rfl, hdirectory⟩
      · exact And.left

/-- Where a path leads to nothing or to a file, a directory is above. -/
theorem node?_dropLast_of_target (h : t.target path = .ok place) :
    t.node? place.dropLast = some .directory := by
  obtain ⟨hlocate, hplace⟩ := target_eq_ok_iff.1 h
  by_cases hroot : place = []
  · subst hroot
    have hwalk := hlocate
    unfold locate at hwalk
    split_ifs at hwalk
    obtain ⟨first, rest, hnames⟩ : ∃ first rest, namesOf path = first :: rest :=
      List.exists_cons_of_ne_nil (by simp [namesOf, List.splitOnP_ne_nil])
    rw [hnames] at hwalk
    exact absurd (walk_cons_eq_ok.1 hwalk).1 hplace
  · obtain ⟨home, name, rfl, hdirectory, -⟩ := exists_parent_of_locate hlocate hroot
    rwa [List.dropLast_concat]

/-- Writing opens the file and then changes nothing but its content. -/
theorem write_eq (t : Tree) (path : String) (content : Bytes) : t.write path content =
    (t.target path).map fun place => t.set place (.file content (t.modeAt place)) := by
  cases htarget : t.target path with
  | error fault =>
    unfold target at htarget
    unfold write
    cases hlocate : t.locate path with
    | error found =>
      rw [hlocate] at htarget
      cases htarget
      rfl
    | ok place =>
      rw [hlocate] at htarget
      simp only [bind, Except.bind] at htarget ⊢
      split_ifs at htarget with hdirectory
      cases htarget
      rw [hdirectory]
      rfl
  | ok place =>
    have habove := node?_dropLast_of_target htarget
    obtain ⟨hlocate, hplace⟩ := target_eq_ok_iff.1 htarget
    unfold write
    rw [hlocate]
    simp only [bind, Except.bind, Except.map, modeAt]
    cases hnode : t.node? place with
    | none => rw [habove]
    | some node =>
      cases node with
      | directory => exact absurd hnode hplace
      | file old executable => rfl

theorem write_eq_ok_iff : t.write path content = .ok u ↔
    ∃ place, t.target path = .ok place ∧ u = t.set place (.file content (t.modeAt place)) := by
  rw [write_eq]
  cases t.target path with
  | error fault => simp [Except.map]
  | ok place => simp [Except.map, eq_comm]

/-! After writing -/

theorem directory_set_file {executable : Bool} (hplace : t.node? place ≠ some .directory)
    {other : Place} : (t.set place (.file content executable)).node? other = some .directory ↔
      t.node? other = some .directory := by
  rw [node?_set]
  split_ifs with hother
  · subst hother
    simp [hplace]
  · rfl

theorem target_set_file {executable : Bool} (h : t.target path = .ok place) :
    (t.set place (.file content executable)).target path = .ok place := by
  obtain ⟨hlocate, hplace⟩ := target_eq_ok_iff.1 h
  refine target_eq_ok_iff.2 ⟨?_, fun hdirectory => hplace ((directory_set_file hplace).1 hdirectory)⟩
  exact locate_of_directories (fun hother => (directory_set_file hplace).2 hother) hlocate

theorem IsSound.write (h : t.IsSound) (hwrite : t.write path content = .ok u) : u.IsSound := by
  obtain ⟨place, htarget, rfl⟩ := write_eq_ok_iff.1 hwrite
  obtain ⟨hlocate, hplace⟩ := target_eq_ok_iff.1 htarget
  have hroot : place ≠ [] := by
    rintro rfl
    exact hplace h.root
  obtain ⟨home, name, rfl, hdirectory, hname⟩ := exists_parent_of_locate hlocate hroot
  exact h.set hdirectory hname fun hthere => absurd hthere hplace

/-! What a path shows of a tree -/

def reach (t : Tree) (place : Place) (names : List String) : Except Fault (Option Node) :=
  (t.walk place names).map t.node?

/-- What a path leads to. It is all that reading and writing along the path depend on. -/
def glance (t : Tree) (path : String) : Except Fault (Option Node) :=
  (t.locate path).map t.node?

theorem find_eq_of_glance (t : Tree) (path : String) : t.find path =
    match t.glance path with
    | .error fault => .error fault
    | .ok none => .error .notFound
    | .ok (some node) => .ok node := by
  unfold find glance
  cases t.locate path with
  | error fault => rfl
  | ok place =>
    simp only [bind, Except.bind, Except.map]
    cases t.node? place <;> rfl

theorem read_congr (h : u.glance path = t.glance path) : u.read path = t.read path := by
  rw [read, read, find_eq_of_glance, find_eq_of_glance, h]

theorem exists?_of_glance (h : u.glance path = t.glance path) :
    u.exists? path = t.exists? path := by
  rw [exists?, exists?, find_eq_of_glance, find_eq_of_glance, h]

theorem exists?_of_file {executable : Bool}
    (h : t.glance path = .ok (some (.file content executable))) : t.exists? path = .ok true := by
  rw [exists?, find_eq_of_glance, h]

theorem read_of_file {executable : Bool}
    (h : t.glance path = .ok (some (.file content executable))) : t.read path = .ok content := by
  rw [read, find_eq_of_glance, h]
  rfl

def modeOf : Option Node → Bool
  | some (.file _ executable) => executable
  | _ => false

/-- A path can be written to as far as it leads to no directory. -/
theorem target_eq_of_glance (t : Tree) (path : String) :
    (t.target path).map t.modeAt =
      match t.glance path with
      | .error fault => .error fault
      | .ok (some .directory) => .error .isDirectory
      | .ok node => .ok (modeOf node) := by
  unfold target glance
  cases t.locate path with
  | error fault => rfl
  | ok place =>
    simp only [bind, Except.bind]
    cases hnode : t.node? place with
    | none => simp [Except.map, hnode, modeAt, modeOf]
    | some node => cases node <;> simp [Except.map, hnode, modeAt, modeOf]

/-- Where a path shows the same of two trees, it can be written to in both or in none, and
the files that are opened have the same mode. -/
theorem target_cases_of_glance (h : u.glance path = t.glance path) :
    (∃ fault, u.target path = .error fault ∧ t.target path = .error fault) ∨
      ∃ place place', u.target path = .ok place ∧ t.target path = .ok place' ∧
        u.modeAt place = t.modeAt place' := by
  have hmode : (u.target path).map u.modeAt = (t.target path).map t.modeAt := by
    rw [target_eq_of_glance, target_eq_of_glance, h]
  cases hu : u.target path with
  | error fault =>
    cases ht : t.target path with
    | error fault' =>
      rw [hu, ht] at hmode
      obtain rfl : fault = fault' := Except.error.inj hmode
      exact .inl ⟨fault, rfl, rfl⟩
    | ok place' =>
      rw [hu, ht] at hmode
      cases hmode
  | ok place =>
    cases ht : t.target path with
    | error fault' =>
      rw [hu, ht] at hmode
      cases hmode
    | ok place' =>
      rw [hu, ht] at hmode
      exact .inr ⟨place, place', rfl, rfl, Except.ok.inj hmode⟩

theorem glance_set_file {executable : Bool} (h : t.target path = .ok place) :
    (t.set place (.file content executable)).glance path =
      .ok (some (.file content executable)) := by
  rw [glance, (target_eq_ok_iff.1 (target_set_file h)).1, Except.map, node?_set, if_pos rfl]

theorem reach_append {above : List String} (h : t.walk place above = .ok home) :
    t.reach place (above ++ names) = t.reach home names := by
  rw [reach, reach, walk_append, h]
  rfl

/-- What names lead to depends on what is on the way alone. -/
theorem reach_congr (hplain : ∀ name ∈ names, name ∉ marks)
    (h : ∀ front, front <+: names → u.node? (home ++ front) = t.node? (home ++ front)) :
    u.reach home names = t.reach home names := by
  induction names generalizing home with
  | nil =>
    have hhome := h [] List.prefix_rfl
    rw [List.append_nil] at hhome
    simp only [reach, walk, Except.map, hhome]
  | cons name names ih =>
    obtain ⟨hname, hplain⟩ := List.forall_mem_cons.1 hplain
    have hhome : u.node? home = t.node? home := by simpa using h [] List.nil_prefix
    have hrest : u.reach (home ++ [name]) names = t.reach (home ++ [name]) names := by
      refine ih hplain fun front hfront => ?_
      have hlonger := h (name :: front) ((List.prefix_cons_inj name).2 hfront)
      rwa [List.append_assoc, List.singleton_append]
    unfold reach at hrest ⊢
    cases hnode : t.node? home with
    | none =>
      rw [walk_of_missing (hhome.trans hnode) (List.cons_ne_nil _ _),
        walk_of_missing hnode (List.cons_ne_nil _ _)]
      rfl
    | some node =>
      rw [hnode] at hhome
      cases node with
      | file old executable => simp only [walk, hhome, hnode, Except.map]
      | directory =>
        rw [walk_of_directory hhome, walk_of_directory hnode, toward_of_plain home hname]
        split_ifs
        · rfl
        · exact hrest

theorem glance_eq (t : Tree) (path : String) : t.glance path =
    if path.isEmpty then .error .notFound else if path.toList.contains '\x00' then .error .badName
    else if maxPath < path.utf8ByteSize then .error .nameTooLong
    else t.reach [] (namesOf path) := by
  unfold glance locate reach
  split_ifs <;> rfl

/-- A path shows the same of two trees if its names lead to the same. -/
theorem glance_congr (h : u.reach [] (namesOf path) = t.reach [] (namesOf path)) :
    u.glance path = t.glance path := by
  rw [glance_eq, glance_eq, h]

end Provenance.Files.Tree
