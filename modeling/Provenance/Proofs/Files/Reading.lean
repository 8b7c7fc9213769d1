import Provenance.Proofs.Files.Tree

/-!
Reading along paths. Making directories changes no file that is there. The path from
the root to what another path leads to reads the same, as far as a path may be so long.
-/

namespace Provenance.Files.Tree

variable {t u : Tree} {place q : Place} {name path : String} {names : List String}

/-- Making directories leaves what is there as it is. -/
theorem node?_of_pave (h : t.pave place names = .ok (u, q)) {other : Place} {node : Node}
    (hother : t.node? other = some node) : u.node? other = some node := by
  induction names generalizing t place with
  | nil =>
    rw [pave] at h
    split at h
    · cases h
    · cases h
    · cases h
      exact hother
  | cons name names ih =>
    obtain ⟨-, -, hrest⟩ := pave_cons_eq_ok.1 h
    refine ih hrest ?_
    unfold paveOne
    split_ifs with hthere
    · exact hother
    · rw [node?_set, if_neg]
      · exact hother
      · rintro rfl
        exact hthere (.inr (by simp [hother]))

theorem read_eq_ok_iff {content : Bytes} : t.read path = .ok content ↔
    ∃ place executable, t.locate path = .ok place ∧
      t.node? place = some (.file content executable) := by
  unfold read find
  cases t.locate path with
  | error fault => simp [bind, Except.bind]
  | ok place =>
    cases hnode : t.node? place with
    | none => simp [bind, Except.bind, hnode]
    | some node =>
      cases node with
      | directory => simp [bind, Except.bind, hnode]
      | file found executable => cases executable <;> simp [bind, Except.bind, hnode]

theorem resolve_eq_ok_iff {path' : String} : t.resolve path = .ok path' ↔
    ∃ place, t.locate path = .ok place ∧ (t.node? place).isSome ∧ path' = pathTo place := by
  unfold resolve
  cases t.locate path with
  | error fault => simp [bind, Except.bind]
  | ok place =>
    cases hnode : t.node? place with
    | none => simp [bind, Except.bind, hnode]
    | some node =>
      simp only [bind, Except.bind, hnode, Except.ok.injEq, exists_eq_left', Option.isSome_some,
        true_and]
      exact eq_comm

theorem resolve_keeps (h : Keeps t u) {path' : String} (hresolve : t.resolve path = .ok path') :
    u.resolve path = .ok path' := by
  obtain ⟨place, hlocate, hsome, rfl⟩ := resolve_eq_ok_iff.1 hresolve
  exact resolve_eq_ok_iff.2
    ⟨place, locate_of_directories h.directory hlocate, h.isSome hsome, rfl⟩

/-! The path from the root -/

def Writable (name : String) : Prop := '/' ∉ name.toList ∧ '\x00' ∉ name.toList

theorem mem_of_mem_splitOnP {p : Char → Bool} {cs piece : List Char}
    (h : piece ∈ cs.splitOnP p) : ∀ c ∈ piece, c ∈ cs ∧ p c = false := by
  induction cs generalizing piece with
  | nil =>
    rw [List.splitOnP_nil, List.mem_singleton] at h
    simp [h]
  | cons first cs ih =>
    rw [List.splitOnP_cons_eq_if_modifyHead] at h
    split_ifs at h with hfirst
    · rcases List.mem_cons.1 h with rfl | h
      · exact nofun
      · exact fun c hc => ⟨List.mem_cons_of_mem _ (ih h c hc).1, (ih h c hc).2⟩
    · obtain ⟨head, rest, hsplit⟩ := List.exists_cons_of_ne_nil (List.splitOnP_ne_nil p cs)
      rw [hsplit, List.modifyHead_cons] at h
      rw [hsplit] at ih
      rcases List.mem_cons.1 h with rfl | h
      · intro c hc
        rcases List.mem_cons.1 hc with rfl | hc
        · exact ⟨List.mem_cons_self, Bool.eq_false_iff.2 hfirst⟩
        · have := ih List.mem_cons_self c hc
          exact ⟨List.mem_cons_of_mem _ this.1, this.2⟩
      · intro c hc
        have := ih (List.mem_cons_of_mem _ h) c hc
        exact ⟨List.mem_cons_of_mem _ this.1, this.2⟩

theorem writable_of_mem_namesOf (hpath : '\x00' ∉ path.toList) (h : name ∈ namesOf path) :
    Writable name := by
  obtain ⟨piece, hpiece, rfl⟩ := List.mem_map.1 h
  have hmem := mem_of_mem_splitOnP hpiece
  rw [Writable, String.toList_ofList]
  exact ⟨fun hc => absurd (hmem _ hc).2 (by decide), fun hc => hpath (hmem _ hc).1⟩

structure Rooted (t : Tree) (place : Place) : Prop where
  walk : t.walk [] place = .ok place
  plain : ∀ name ∈ place, name ∉ marks ∧ Writable name

theorem Rooted.dropLast (h : t.Rooted place) : t.Rooted place.dropLast := by
  rcases List.eq_nil_or_concat place with rfl | ⟨front, last, rfl⟩
  · exact h
  · rw [List.concat_eq_append, List.dropLast_concat] at *
    have hlast := (h.plain last (List.mem_append_right _ List.mem_cons_self)).1
    obtain ⟨home, hplace, hfront, -⟩ := exists_home_of_walk h.walk hlast
    obtain ⟨rfl, -⟩ := List.append_inj' hplace rfl
    exact ⟨hfront, fun name hname => h.plain name (List.mem_append_left _ hname)⟩

theorem Rooted.of_walk (h : t.Rooted place) (hnames : ∀ name ∈ names, Writable name)
    (hwalk : t.walk place names = .ok q) : t.Rooted q := by
  induction names generalizing place with
  | nil =>
    cases hwalk
    exact h
  | cons name names ih =>
    obtain ⟨hplace, hfits, hrest⟩ := walk_cons_eq_ok.1 hwalk
    refine ih ?_ (fun other hother => hnames other (List.mem_cons_of_mem _ hother)) hrest
    by_cases hmark : name ∈ marks
    · unfold toward
      split_ifs with hpoint hup
      · exact h
      · exact h.dropLast
      · simp only [marks, List.mem_cons, List.not_mem_nil, or_false] at hmark
        tauto
    · rw [toward_of_plain place hmark]
      constructor
      · rw [walk_append, h.walk]
        change t.walk place [name] = _
        rw [walk_cons_of_directory hplace hfits, toward_of_plain place hmark, Tree.walk]
      · intro other hother
        rcases List.mem_append.1 hother with hother | hother
        · exact h.plain other hother
        · rw [List.mem_singleton.1 hother]
          exact ⟨hmark, hnames name List.mem_cons_self⟩

theorem rooted_of_locate (h : t.locate path = .ok place) : t.Rooted place := by
  unfold locate at h
  split_ifs at h with hempty hnul
  have hnul : '\x00' ∉ path.toList := by simpa using hnul
  have hroot : t.Rooted [] := ⟨rfl, by simp⟩
  exact hroot.of_walk (fun name hname => writable_of_mem_namesOf hnul hname) h

theorem namesOf_pathTo (hplace : place ≠ []) (hplain : ∀ name ∈ place, '/' ∉ name.toList) :
    namesOf (pathTo place) = "" :: place := by
  have hpieces : (pathTo place).toList = ['/'].intercalate ([] :: place.map String.toList) := by
    rw [pathTo, String.toList_append, String.toList_intercalate,
      List.intercalate_cons_of_ne_nil (by simpa using hplace)]
    rfl
  have hsplit : List.splitOn '/' (pathTo place).toList = [] :: place.map String.toList := by
    rw [hpieces]
    refine List.splitOn_intercalate '/' (fun piece hpiece => ?_) (by simp)
    rcases List.mem_cons.1 hpiece with rfl | hpiece
    · simp
    · obtain ⟨name, hname, rfl⟩ := List.mem_map.1 hpiece
      exact hplain name hname
  have hnames : namesOf (pathTo place) =
      (List.splitOn '/' (pathTo place).toList).map String.ofList := by
    rw [List.splitOn_eq_splitOnP]
    rfl
  rw [hnames, hsplit, List.map_cons, List.map_map]
  simp

theorem mem_of_mem_intercalate {c : Char} {pieces : List (List Char)}
    (h : c ∈ ['/'].intercalate pieces) : c = '/' ∨ ∃ piece ∈ pieces, c ∈ piece := by
  induction pieces with
  | nil => simp at h
  | cons piece pieces ih =>
    by_cases hpieces : pieces = []
    · subst hpieces
      rw [List.intercalate_singleton] at h
      exact .inr ⟨piece, List.mem_cons_self, h⟩
    · rw [List.intercalate_cons_of_ne_nil hpieces] at h
      rcases List.mem_append.1 h with h | h
      · rcases List.mem_append.1 h with h | h
        · exact .inr ⟨piece, List.mem_cons_self, h⟩
        · exact .inl (List.mem_singleton.1 h)
      · exact (ih h).imp_right fun ⟨other, hother, hc⟩ =>
          ⟨other, List.mem_cons_of_mem _ hother, hc⟩

theorem nul_not_mem_pathTo (hplain : ∀ name ∈ place, '\x00' ∉ name.toList) :
    '\x00' ∉ (pathTo place).toList := by
  intro hmem
  rw [pathTo, String.toList_append, String.toList_intercalate] at hmem
  rcases List.mem_append.1 hmem with hmem | hmem
  · exact absurd hmem (by decide)
  · rcases mem_of_mem_intercalate hmem with heq | ⟨piece, hpiece, hc⟩
    · exact absurd heq (by decide)
    · obtain ⟨name, hname, rfl⟩ := List.mem_map.1 hpiece
      exact hplain name hname hc

/-- The path to a place that is rooted leads there, if it is not too long. -/
theorem Rooted.locate_pathTo (h : t.Rooted place) (hroot : t.node? [] = some .directory)
    (hlength : (pathTo place).utf8ByteSize ≤ maxPath) : t.locate (pathTo place) = .ok place := by
  have hnul := nul_not_mem_pathTo fun name hname => (h.plain name hname).2.2
  rw [locate, if_neg (by simp [pathTo]), if_neg (by simpa using hnul),
    if_neg (Nat.not_lt.2 hlength)]
  by_cases hplace : place = []
  · subst hplace
    rw [show namesOf (pathTo []) = ["", ""] by decide,
      walk_cons_of_directory hroot (.inl (by decide))]
    exact walk_cons_of_directory hroot (.inl (by decide))
  · rw [namesOf_pathTo hplace fun name hname => (h.plain name hname).2.1,
      walk_cons_of_directory hroot (.inl (by decide))]
    exact h.walk

/-- What a path leads to is read along the path from the root. -/
theorem read_of_resolve {path' : String} (h : t.resolve path = .ok path')
    (hlength : path'.utf8ByteSize ≤ maxPath) : t.read path' = t.read path := by
  obtain ⟨place, hlocate, -, rfl⟩ := resolve_eq_ok_iff.1 h
  have hroot : t.node? [] = some .directory := by
    obtain ⟨name, names, hnames⟩ : ∃ name names, namesOf path = name :: names :=
      List.exists_cons_of_ne_nil (by simp [namesOf, List.splitOnP_ne_nil])
    have hwalk := hlocate
    unfold locate at hwalk
    split_ifs at hwalk
    rw [hnames] at hwalk
    exact (walk_cons_eq_ok.1 hwalk).1
  have hback := (rooted_of_locate hlocate).locate_pathTo hroot hlength
  rw [read, read, find, find, hlocate, hback]

end Provenance.Files.Tree
