import Provenance.Proofs.Files.Reading

/-!
Paths that are joined. A name behind a path adds one part to it, however the path is
written, and leads from the directory at the end of the path to the place right below.
-/

namespace Provenance.Files

inductive Part where
  | root
  | here
  | up
  | named (name : String)
  deriving DecidableEq, Repr

def Part.ofName (name : String) : Option Part :=
  if name = "" ∨ name = "." then none else if name = ".." then some .up else some (.named name)

/-- The parts of a path. A separator or a point counts at the front. -/
def partsOf (path : String) : List Part :=
  let front :=
    if path.toList.head? = some '/' then [.root]
    else if (Tree.namesOf path).head? = some "." then [.here] else []
  front ++ (Tree.namesOf path).filterMap Part.ofName

theorem mem_joinPath {directory name : String} {c : Char}
    (h : c ∈ (joinPath directory name).toList) :
    c ∈ directory.toList ∨ c = '/' ∨ c ∈ name.toList := by
  unfold joinPath at h
  split_ifs at h
  · exact .inr (.inr h)
  · rw [String.toList_append, List.mem_append] at h
    exact h.imp_right .inr
  · rw [String.toList_append, String.toList_append, List.mem_append, List.mem_append] at h
    rcases h with (h | h) | h
    · exact .inl h
    · exact .inr (.inl (by simpa using h))
    · exact .inr (.inr h)

theorem utf8ByteSize_le_joinPath {directory name : String}
    (hname : name.toList.head? ≠ some '/') :
    directory.utf8ByteSize ≤ (joinPath directory name).utf8ByteSize := by
  unfold joinPath
  split_ifs with hempty
  · have hdirectory : directory = "" := by simpa [hname] using hempty
    simp [hdirectory]
  · rw [String.utf8ByteSize_append]
    omega
  · rw [String.utf8ByteSize_append, String.utf8ByteSize_append]
    omega

theorem joinPath_empty (name : String) : joinPath "" name = name := by
  simp [joinPath]

namespace Tree

variable {t : Tree} {home : Place} {directory name other : String}

structure IsName (name : String) : Prop where
  unmarked : name ∉ marks
  writable : Writable name
  short : name.utf8ByteSize ≤ maxName

instance (name : String) : Decidable (IsName name) :=
  decidable_of_iff (name ∉ marks ∧ ('/' ∉ name.toList ∧ '\x00' ∉ name.toList) ∧
    name.utf8ByteSize ≤ maxName) ⟨fun h => ⟨h.1, h.2.1, h.2.2⟩, fun h => ⟨h.1, h.2, h.3⟩⟩

theorem IsName.slash (h : IsName name) : '/' ∉ name.toList := h.writable.1

theorem IsName.fits (h : IsName name) : Fits name := .inr h.short

theorem IsName.ne_empty (h : IsName name) : name ≠ "" := by
  rintro rfl
  exact h.unmarked (by decide)

theorem IsName.head?_ne (h : IsName name) : name.toList.head? ≠ some '/' :=
  fun hhead => h.slash (List.mem_of_head? hhead)

theorem IsName.ofName_eq (h : IsName name) : Part.ofName name = some (.named name) := by
  have hmarks := h.unmarked
  simp only [marks, List.mem_cons, List.not_mem_nil, or_false, not_or] at hmarks
  rw [Part.ofName, if_neg (by simp [hmarks]), if_neg hmarks.2.2]

theorem IsName.joinPath_ne_empty (h : IsName name) (directory : String) :
    joinPath directory name ≠ "" := by
  intro hempty
  have hlist := congrArg String.toList hempty
  unfold joinPath at hlist
  split_ifs at hlist
  · exact h.ne_empty (String.toList_inj.1 hlist)
  · simp [h.ne_empty] at hlist
  · simp at hlist

theorem IsName.head?_joinPath (h : IsName name) (directory : String) :
    (joinPath directory name).toList.head? = some '/' ↔ directory.toList.head? = some '/' := by
  unfold joinPath
  split_ifs with hempty
  · have hdirectory : directory = "" := by simpa [h.head?_ne] using hempty
    simp [hdirectory, h.head?_ne]
  all_goals
    have hdirectory : directory.toList ≠ [] := by
      rintro hnil
      simp [String.toList_eq_nil_iff.1 hnil] at hempty
    simp [List.head?_append_of_ne_nil _ hdirectory]

/-- A name behind a path is one part more. -/
theorem IsName.partsOf_joinPath (h : IsName name) (directory : String) :
    partsOf (joinPath directory name) = partsOf directory ++ [.named name] := by
  obtain ⟨above, hdirectory, hjoin⟩ := exists_namesOf_joinPath directory
  have hpoint : (above ++ [name]).head? = some "." ↔
      (namesOf directory).head? = some "." := by
    have hname : name ≠ "." := by
      rintro rfl
      exact h.unmarked (by decide)
    rcases hdirectory with hsame | hmore
    · have hne : above ≠ [] := by
        rw [← hsame]
        simp [namesOf, List.splitOnP_ne_nil]
      rw [hsame, List.head?_append_of_ne_nil _ hne]
    · rw [hmore]
      cases above <;> simp [hname]
  have hparts : (namesOf directory).filterMap Part.ofName = above.filterMap Part.ofName := by
    rcases hdirectory with hsame | hmore
    · rw [hsame]
    · rw [hmore, List.filterMap_append]
      simp [Part.ofName]
  unfold partsOf
  rw [hjoin name h.slash, hparts, List.filterMap_append]
  simp only [h.head?_joinPath, hpoint, List.filterMap_cons, List.filterMap_nil, h.ofName_eq,
    List.append_assoc]

/-- Behind a path with a name at its end another name is added. -/
theorem namesOf_joinPath_of_concat {last : String} {names : List String}
    (hdirectory : namesOf directory = names ++ [last]) (hlast : last ≠ "")
    (hname : IsName name) :
    namesOf (joinPath directory name) = names ++ [last, name] := by
  obtain ⟨above, hnames, hjoin⟩ := exists_namesOf_joinPath directory
  rw [hjoin name hname.slash]
  rcases hnames with hsame | hmore
  · rw [← hsame, hdirectory, List.append_assoc]
    rfl
  · rw [hdirectory] at hmore
    exact absurd (List.singleton_inj.1 (List.append_inj' hmore rfl).2) hlast

/-- A separator at the end of a path makes no difference to where it leads. -/
theorem walk_above {above : List String}
    (hnames : namesOf directory = above ∨ namesOf directory = above ++ [""])
    (hwalk : t.walk [] (namesOf directory) = .ok home) : t.walk [] above = .ok home := by
  rcases hnames with hsame | hmore
  · rwa [hsame] at hwalk
  · rw [hmore, walk_append] at hwalk
    cases habove : t.walk [] above with
    | error fault =>
      rw [habove] at hwalk
      cases hwalk
    | ok place =>
      rw [habove] at hwalk
      obtain ⟨-, -, hend⟩ := walk_cons_eq_ok.1 hwalk
      exact hend

/-- The path of a name in a directory leads right below the directory, or is too long. -/
theorem locate_joinPath (h : IsName name) (hhome : t.locate directory = .ok home)
    (hdirectory : t.node? home = some .directory) :
    t.locate (joinPath directory name) =
      if maxPath < (joinPath directory name).utf8ByteSize then .error .nameTooLong
      else .ok (home ++ [name]) := by
  obtain ⟨above, hnames, hjoin⟩ := exists_namesOf_joinPath directory
  unfold locate at hhome ⊢
  split_ifs at hhome with hempty hnul
  have hnul' : '\x00' ∉ (joinPath directory name).toList := by
    intro hmem
    rcases mem_joinPath hmem with hmem | hmem | hmem
    · simp [hmem] at hnul
    · exact absurd hmem (by decide)
    · exact h.writable.2 hmem
  have hwalk := walk_above hnames hhome
  have hlast : t.walk home [name] = .ok (home ++ [name]) := by
    rw [walk_cons_of_directory hdirectory h.fits, toward_of_plain home h.unmarked, walk]
  rw [if_neg (by simpa using h.joinPath_ne_empty directory), if_neg (by simpa using hnul'),
    hjoin name h.slash, walk_append, hwalk]
  simp only [bind, Except.bind, hlast]

theorem locate_joinPath_of_le (h : IsName name) (hhome : t.locate directory = .ok home)
    (hdirectory : t.node? home = some .directory)
    (hlength : (joinPath directory name).utf8ByteSize ≤ maxPath) :
    t.locate (joinPath directory name) = .ok (home ++ [name]) := by
  rw [locate_joinPath h hhome hdirectory, if_neg (Nat.not_lt.2 hlength)]

/-- Names in one directory lead to places apart. -/
theorem locate_joinPath_ne (hname : IsName name) (hother : IsName other) (hne : name ≠ other)
    {place : Place} (h : t.locate (joinPath directory name) = .ok place) :
    t.locate (joinPath directory other) ≠ .ok place := by
  intro hsame
  obtain ⟨above, -, hjoin⟩ := exists_namesOf_joinPath directory
  unfold locate at h hsame
  split_ifs at h hsame
  rw [hjoin name hname.slash] at h
  rw [hjoin other hother.slash] at hsame
  obtain ⟨home, rfl, -, -⟩ := exists_home_of_walk h hname.unmarked
  obtain ⟨home', hplace, -, -⟩ := exists_home_of_walk hsame hother.unmarked
  exact hne (List.singleton_inj.1 (List.append_inj' hplace rfl).2)

end Tree

end Provenance.Files
