import Provenance.Proofs.Files.Reading

/-!
Directories that are made partway. Whatever front of a path is made, only directories
are new. What the other names of the last directory lead to does not change, if the path
is straight and its names can be those of directories: where the path leaves the tree,
the new directories are on the way to the last one, and beside them nothing is.
-/

namespace Provenance.Files.Tree

variable {t u : Tree} {place q : Place} {name last path : String} {names front : List String}

def Adds (t u : Tree) : Prop :=
  ∀ place, u.node? place = t.node? place ∨
    t.node? place = none ∧ u.node? place = some .directory

theorem Adds.refl (t : Tree) : Adds t t := fun _ => .inl rfl

theorem Adds.trans {v : Tree} (h : Adds t u) (h' : Adds u v) : Adds t v := by
  intro place
  rcases h' place with hsame | ⟨hnone, hnew⟩
  · rw [hsame]
    exact h place
  · rcases h place with hsame | ⟨-, hthere⟩
    · exact .inr ⟨hsame ▸ hnone, hnew⟩
    · rw [hnone] at hthere
      cases hthere

theorem Adds.keeps (h : Adds t u) : Keeps t u := by
  refine ⟨fun {place} hplace => ?_, fun {place} hplace => ?_⟩
  · rcases h place with hsame | ⟨-, hnew⟩
    · rw [hsame, hplace]
    · exact hnew
  · rcases h place with hsame | ⟨-, hnew⟩
    · rw [hsame, hplace]
    · rw [hnew, Option.isSome_some]

theorem Adds.of_node? {v : Tree} (h : Adds t u) (hnode : ∀ place, v.node? place = u.node? place) :
    Adds t v := by
  intro place
  rw [hnode]
  exact h place

theorem adds_paveOne (t : Tree) (place : Place) (name : String) :
    Adds t (t.paveOne place name) := by
  intro other
  unfold paveOne
  split_ifs with hthere
  · exact .inl rfl
  · rw [node?_set]
    split_ifs with heq
    · subst heq
      exact .inr ⟨Option.not_isSome_iff_eq_none.1 (not_or.1 hthere).2, rfl⟩
    · exact .inl rfl

theorem adds_of_pave (h : t.pave place names = .ok (u, q)) : Adds t u := by
  induction names generalizing t place with
  | nil =>
    rw [pave] at h
    split at h
    · cases h
    · cases h
    · cases h
      exact Adds.refl _
  | cons name names ih =>
    obtain ⟨-, -, hrest⟩ := pave_cons_eq_ok.1 h
    exact (t.adds_paveOne place name).trans (ih hrest)

/-- A file that is there is among new directories what it was. -/
theorem Adds.read (h : Adds t u) {content : Bytes} (hread : t.read path = .ok content) :
    u.read path = .ok content := by
  obtain ⟨place, executable, hlocate, hfile⟩ := read_eq_ok_iff.1 hread
  refine read_eq_ok_iff.2 ⟨place, executable, locate_of_directories h.keeps.directory hlocate, ?_⟩
  rcases h place with hsame | ⟨hnone, -⟩
  · rw [hsame, hfile]
  · rw [hnone] at hfile
    cases hfile

theorem find_eq_ok_iff {node : Node} : t.find path = .ok node ↔
    ∃ place, t.locate path = .ok place ∧ t.node? place = some node := by
  unfold find
  cases t.locate path with
  | error fault => simp [bind, Except.bind]
  | ok place => cases hnode : t.node? place <;> simp [bind, Except.bind, hnode]

theorem find_directory_keeps (h : Keeps t u) (hpath : t.find path = .ok .directory) :
    u.find path = .ok .directory := by
  obtain ⟨place, hlocate, hplace⟩ := find_eq_ok_iff.1 hpath
  exact find_eq_ok_iff.2 ⟨place, locate_of_directories h.directory hlocate, h.directory hplace⟩

/-! What names lead to -/

def seek (t : Tree) (place : Place) (names : List String) : Except Fault Node :=
  match t.walk place names with
  | .error fault => .error fault
  | .ok place =>
    match t.node? place with
    | some node => .ok node
    | none => .error .notFound

theorem seek_of_walk (h : t.walk place names = .ok q) : t.seek place names = t.seek q [] := by
  rw [seek, h]
  rfl

theorem seek_nil_congr (h : u.node? place = t.node? place) : u.seek place [] = t.seek place [] := by
  simp only [seek, walk, h]

theorem seek_of_missing (hplace : t.node? place = none) :
    t.seek place names = .error .notFound := by
  cases names with
  | nil => simp only [seek, walk, hplace]
  | cons name names => rw [seek, walk_of_missing hplace (List.cons_ne_nil _ _)]

theorem seek_cons_of_directory (hplace : t.node? place = some .directory) (hname : Fits name) :
    t.seek place (name :: names) = t.seek (toward place name) names := by
  rw [seek, seek, walk_cons_of_directory hplace hname]

theorem seek_eq_ok_iff {node : Node} : t.seek place names = .ok node ↔
    ∃ q, t.walk place names = .ok q ∧ t.node? q = some node := by
  unfold seek
  cases t.walk place names with
  | error fault => simp
  | ok q => cases hnode : t.node? q <;> simp [hnode]

theorem fits_of_walk (h : t.walk place names = .ok q) : ∀ name ∈ names, Fits name := by
  induction names generalizing place with
  | nil => exact fun _ hname => absurd hname List.not_mem_nil
  | cons name names ih =>
    obtain ⟨-, hname, hrest⟩ := walk_cons_eq_ok.1 h
    exact List.forall_mem_cons.2 ⟨hname, ih hrest⟩

theorem find_eq (t : Tree) (path : String) : t.find path =
    if path.isEmpty then .error .notFound else if path.toList.contains '\x00' then .error .badName
    else if maxPath < path.utf8ByteSize then .error .nameTooLong
    else t.seek [] (namesOf path) := by
  unfold find locate seek
  split_ifs
  · rfl
  · rfl
  · rfl
  · cases t.walk [] (namesOf path) <;> rfl

/-- Of a tree, a path sees only what its names lead to. -/
theorem find_congr (h : t.seek [] (namesOf path) = u.seek [] (namesOf path)) :
    t.find path = u.find path := by
  rw [find_eq, find_eq, h]

theorem walk_of_node? (h : ∀ place, u.node? place = t.node? place) :
    u.walk place names = t.walk place names := by
  induction names generalizing place with
  | nil => rfl
  | cons name names ih => simp only [walk, h, ih]

theorem find_of_node? (h : ∀ place, u.node? place = t.node? place) : u.find path = t.find path := by
  apply find_congr
  rw [seek, seek, walk_of_node? h]
  cases t.walk [] (namesOf path) with
  | error fault => rfl
  | ok place => simp only [h]

/-- Where there are no files, a walk that does not go up comes to its end or finds
nothing. -/
theorem walk_cases (hfiles : ∀ below content executable,
      t.node? (place ++ below) ≠ some (.file content executable))
    (hup : ".." ∉ names) (hnames : ∀ name ∈ names, Fits name) :
    (∃ q, t.walk place names = .ok q) ∨ t.walk place names = .error .notFound := by
  induction names generalizing place with
  | nil => exact .inl ⟨place, rfl⟩
  | cons name names ih =>
    obtain ⟨hname, hup⟩ := not_or.1 (mt List.mem_cons.2 hup)
    obtain ⟨hfits, hnames⟩ := List.forall_mem_cons.1 hnames
    cases hplace : t.node? place with
    | none => exact .inr (walk_of_missing hplace (List.cons_ne_nil _ _))
    | some node =>
      cases node with
      | file content executable =>
        have hfile := hfiles [] content executable
        rw [List.append_nil] at hfile
        exact absurd hplace hfile
      | directory =>
        rw [walk_cons_of_directory hplace hfits]
        refine ih (fun below content executable => ?_) hup hnames
        unfold toward
        split_ifs with hpoint hdots
        · exact hfiles below content executable
        · exact absurd hdots.symm hname
        · rw [List.append_assoc]
          exact hfiles _ content executable

/-- Beside the way to the last directory, as far as it was made, nothing is. -/
theorem node?_beside_front {above back : List String} {home : Place}
    (hpave : t.pave place front = .ok (u, q)) (hfront : above ++ [last] = front ++ back)
    (hup : ".." ∉ above ++ [last]) (hwalk : u.walk place above = .ok home) (hname : name ≠ last)
    (hlast : last ∉ marks) (hmissing : t.node? (home ++ [name]) = none) :
    u.node? (home ++ [name]) = none := by
  by_contra hthere
  have hupfront : ".." ∉ front := fun hmem => hup (hfront ▸ List.mem_append_left _ hmem)
  obtain ⟨-, hend, -⟩ := pave_eq_ok hpave
  rcases node?_pave hupfront hpave (Option.isSome_iff_ne_none.2 hthere) with hsome | hway
  · rw [hmissing] at hsome
    cases hsome
  · rcases List.eq_nil_or_concat back with rfl | ⟨back, other, rfl⟩
    · rw [List.append_nil] at hfront
      rw [← hfront, walk_append, hwalk] at hend
      obtain ⟨-, -, hend⟩ := walk_cons_eq_ok.1 (show u.walk home [last] = .ok q from hend)
      rw [toward_of_plain home hlast] at hend
      obtain rfl : home ++ [last] = q := Except.ok.inj hend
      have heq := hway.eq_of_length (by simp)
      simp [hname] at heq
    · rw [List.concat_eq_append, ← List.append_assoc] at hfront
      obtain ⟨rfl, -⟩ := List.append_inj' hfront rfl
      rw [walk_append, hend] at hwalk
      have hupback : ".." ∉ back := fun hmem =>
        hup (List.mem_append_left _ (List.mem_append_right _ hmem))
      have hhome := prefix_of_walk hupback (show u.walk q back = .ok home from hwalk)
      have hlength := (hway.trans hhome).length_le
      simp at hlength

/-- Below a directory that is new, beside the way to the last one, nothing is. -/
theorem seek_below {above back : List String} (hbelow : ∀ below, t.node? (place ++ below) = none)
    (hpave : (t.set place .directory).pave place front = .ok (u, q))
    (hfront : above ++ [last] = front ++ back) (hup : ".." ∉ above) (habove : ∀ n ∈ above, Fits n)
    (hlast : last ∉ marks) (hplain : name ∉ marks) (hfits : Fits name) (hname : name ≠ last) :
    u.seek place (above ++ [name]) = .error .notFound := by
  have hmade (below : List String) : (t.set place .directory).node? (place ++ below) =
      if below = [] then some .directory else none := by
    rw [node?_set, hbelow]
    simp
  have hfiles (below : List String) (content : Bytes) (executable : Bool) :
      u.node? (place ++ below) ≠ some (.file content executable) := by
    rcases adds_of_pave hpave (place ++ below) with hsame | ⟨-, hnew⟩
    · rw [hsame, hmade]
      split_ifs <;> simp
    · simp [hnew]
  have hupname : ".." ∉ above ++ [name] := by
    simp only [List.mem_append, List.mem_singleton, not_or]
    refine ⟨hup, ?_⟩
    rintro rfl
    exact hplain (by decide)
  have hall : ∀ n ∈ above ++ [name], Fits n :=
    List.forall_mem_append.2 ⟨habove, List.forall_mem_singleton.2 hfits⟩
  rcases walk_cases hfiles hupname hall with ⟨target, hwalk⟩ | hwalk
  · obtain ⟨home, rfl, hhome, -⟩ := exists_home_of_walk hwalk hplain
    obtain ⟨below, rfl⟩ := prefix_of_walk hup hhome
    have hmissing : (t.set place .directory).node? (place ++ below ++ [name]) = none := by
      rw [List.append_assoc, hmade, if_neg (by simp)]
    have huplast : ".." ∉ above ++ [last] := by
      simp only [List.mem_append, List.mem_singleton, not_or]
      refine ⟨hup, ?_⟩
      rintro rfl
      exact hlast (by decide)
    rw [seek_of_walk hwalk]
    exact seek_of_missing (node?_beside_front hpave hfront huplast hhome hname hlast hmissing)
  · rw [seek, hwalk]

theorem eq_of_pave_nil (h : t.pave place [] = .ok (u, q)) : u = t := by
  rw [pave] at h
  split at h
  · cases h
  · cases h
  · cases h
    rfl

/-- Making a front of a straight path changes nothing that the names of the last
directory lead to, its own aside. -/
theorem Straight.seek_of_pave {above back : List String} (h : Straight t place above)
    (hpave : t.pave place front = .ok (u, q)) (hfront : above ++ [last] = front ++ back)
    (habove : ∀ n ∈ above, Fits n) (hlast : last ∉ marks) (hplain : name ∉ marks)
    (hfits : Fits name) (hname : name ≠ last) :
    u.seek place (above ++ [name]) = t.seek place (above ++ [name]) := by
  induction above generalizing t place front with
  | nil =>
    cases front with
    | nil => rw [eq_of_pave_nil hpave]
    | cons n front =>
      obtain ⟨rfl, hnil⟩ := List.cons.inj (show last :: [] = n :: (front ++ back) from hfront)
      obtain ⟨rfl, rfl⟩ := List.append_eq_nil_iff.1 hnil.symm
      have hkeeps := (pave_eq_ok hpave).1
      obtain ⟨hplace, -, -⟩ := pave_cons_eq_ok.1 hpave
      have hup : ".." ∉ [] ++ [last] := by
        rw [List.nil_append, List.mem_singleton]
        rintro rfl
        exact hlast (by decide)
      have hbeside : u.node? (place ++ [name]) = t.node? (place ++ [name]) := by
        rcases adds_of_pave hpave (place ++ [name]) with hsame | ⟨hnone, -⟩
        · exact hsame
        · rw [hnone]
          exact node?_beside_front hpave (List.append_nil _).symm hup rfl hname hlast hnone
      rw [List.nil_append, seek_cons_of_directory hplace hfits,
        seek_cons_of_directory (hkeeps.directory hplace) hfits, toward_of_plain _ hplain]
      exact seek_nil_congr hbeside
  | cons n above ih =>
    cases front with
    | nil => rw [eq_of_pave_nil hpave]
    | cons n' front =>
      obtain ⟨rfl, hrestfront⟩ := List.cons.inj
        (show n :: (above ++ [last]) = n' :: (front ++ back) from hfront)
      have hkeeps := (pave_eq_ok hpave).1
      obtain ⟨hplace, hn, hrest⟩ := pave_cons_eq_ok.1 hpave
      have habove := (List.forall_mem_cons.1 habove).2
      rw [List.cons_append, seek_cons_of_directory hplace hn,
        seek_cons_of_directory (hkeeps.directory hplace) hn]
      by_cases hthere : n ∈ marks ∨ (t.node? (place ++ [n])).isSome
      · rw [paveOne, if_pos hthere] at hrest
        exact ih (h.tail hplace hn) hrest hrestfront habove
      · -- From here on nothing is there, so the new directories are all below.
        obtain ⟨hnplain, hmissing⟩ := not_or.1 hthere
        have hmissing := Option.not_isSome_iff_eq_none.1 hmissing
        rw [paveOne, if_neg hthere, toward_of_plain place hnplain] at hrest
        rw [toward_of_plain place hnplain]
        have hway : t.walk place [n] = .ok (place ++ [n]) := by
          rw [walk_cons_of_directory hplace hn, toward_of_plain place hnplain, walk]
        obtain ⟨hup, hbelow⟩ := h [n] above _ rfl hway hmissing
        rw [seek_of_missing hmissing]
        exact seek_below hbelow hrest hrestfront hup habove hlast hplain hfits hname

/-! Making directories can break off -/

/-- The front of a path is made before the rest of it. -/
theorem pave_append {back : List String} (h : t.pave place front = .ok (u, q)) :
    t.pave place (front ++ back) = u.pave q back := by
  induction front generalizing t place with
  | nil =>
    obtain ⟨-, hq, -⟩ := pave_eq_ok h
    cases hq
    rw [eq_of_pave_nil h, List.nil_append]
  | cons name front ih =>
    obtain ⟨hplace, hname, hrest⟩ := pave_cons_eq_ok.1 h
    rw [List.cons_append, pave_cons_of_directory hplace hname]
    exact ih hrest

/-- What is left of making directories is a front of their path. -/
theorem paveFront_cases (t : Tree) (place : Place) (names : List String) :
    t.paveFront place names = t ∨ ∃ front back q, names = front ++ back ∧
      t.pave place front = .ok (t.paveFront place names, q) := by
  induction names generalizing t place with
  | nil => exact .inl rfl
  | cons name names ih =>
    rw [paveFront]
    cases hone : t.pave place [name] with
    | error fault => exact .inl rfl
    | ok made =>
      obtain ⟨u, next⟩ := made
      rcases ih u next with hsame | ⟨front, back, q, rfl, hpave⟩
      · refine .inr ⟨[name], names, next, rfl, ?_⟩
        dsimp only
        rw [hsame, hone]
      · exact .inr ⟨name :: front, back, q, rfl, (pave_append hone).trans hpave⟩

/-- Whether a path can be made is not changed by making a front of it. -/
theorem makeDirectories_of_pave {back : List String} (hfront : namesOf path = front ++ back)
    (hpave : t.pave [] front = .ok (u, q)) : u.makeDirectories path = t.makeDirectories path := by
  obtain ⟨-, hwalk, hq⟩ := pave_eq_ok hpave
  rw [makeDirectories, makeDirectories, hfront, pave_append hpave,
    pave_append (pave_of_walk hwalk hq)]

/-! Straight paths stay straight -/

theorem Straight.of_node? (h : Straight t place names)
    (hnode : ∀ place, u.node? place = t.node? place) : Straight u place names := by
  intro front back missing hsplit hwalk hmissing
  rw [walk_of_node? hnode] at hwalk
  rw [hnode] at hmissing
  obtain ⟨hup, hbelow⟩ := h front back missing hsplit hwalk hmissing
  exact ⟨hup, fun below => (hnode _).trans (hbelow below)⟩

theorem Straight.cons (h : Straight t (toward place name) names)
    (hplace : t.node? place = some .directory) : Straight t place (name :: names) := by
  intro front back missing hsplit hwalk hmissing
  cases front with
  | nil =>
    cases hwalk
    rw [hplace] at hmissing
    cases hmissing
  | cons first front =>
    obtain ⟨rfl, hrest⟩ := List.cons.inj (show name :: names = first :: (front ++ back) from hsplit)
    exact h front back missing hrest (walk_cons_eq_ok.1 hwalk).2.2 hmissing

/-- Where nothing was, only the way that was made is there. -/
theorem straight_below {back : List String} (hbelow : ∀ below, t.node? (place ++ below) = none)
    (hup : ".." ∉ front ++ back) (hpave : (t.set place .directory).pave place front = .ok (u, q)) :
    Straight u place (front ++ back) := by
  intro front' back' missing hsplit hwalk hmissing
  obtain ⟨hkeeps, hend, hq⟩ := pave_eq_ok hpave
  obtain ⟨hupfront, hupback⟩ := not_or.1 (mt List.mem_append.2 hup)
  rcases List.append_eq_append_iff.1 hsplit with ⟨rest, rfl, rfl⟩ | ⟨rest, rfl, rfl⟩
  · obtain ⟨huprest, hupback⟩ := not_or.1 (mt List.mem_append.2 hupback)
    refine ⟨hupback, fun below => ?_⟩
    rw [walk_append, hend] at hwalk
    have hbehind : q <+: missing := prefix_of_walk huprest hwalk
    obtain ⟨way, rfl⟩ := (prefix_of_walk hupfront hend).trans hbehind
    by_contra hthere
    rcases node?_pave hupfront hpave (Option.isSome_iff_ne_none.2 hthere) with hsome | hway
    · rw [node?_set] at hsome
      split_ifs at hsome with heq
      · have hway : way = [] := (List.append_eq_nil_iff.1 (by simpa using heq)).1
        have hplace := hkeeps.directory (by rw [node?_set, if_pos rfl])
        rw [hway, List.append_nil, hplace] at hmissing
        cases hmissing
      · rw [List.append_assoc, hbelow] at hsome
        cases hsome
    · have heq := ((List.prefix_append _ below).trans hway).eq_of_length_le hbehind.length_le
      rw [heq, hq] at hmissing
      cases hmissing
  · rw [walk_append, hwalk] at hend
    cases rest with
    | nil =>
      cases hend
      rw [hq] at hmissing
      cases hmissing
    | cons name rest =>
      have hlost := walk_of_missing hmissing (List.cons_ne_nil name rest)
      cases hlost.symm.trans hend

theorem Straight.of_pave {back : List String} (h : Straight t place (front ++ back))
    (hpave : t.pave place front = .ok (u, q)) : Straight u place (front ++ back) := by
  induction front generalizing t place with
  | nil =>
    rw [eq_of_pave_nil hpave]
    exact h
  | cons name front ih =>
    obtain ⟨hplace, hname, hrest⟩ := pave_cons_eq_ok.1 hpave
    have hplace' := (pave_eq_ok hpave).1.directory hplace
    rw [List.cons_append] at h ⊢
    by_cases hthere : name ∈ marks ∨ (t.node? (place ++ [name])).isSome
    · rw [paveOne, if_pos hthere] at hrest
      exact (ih (h.tail hplace hname) hrest).cons hplace'
    · obtain ⟨hplain, hmissing⟩ := not_or.1 hthere
      have hmissing := Option.not_isSome_iff_eq_none.1 hmissing
      have hway : t.walk place [name] = .ok (toward place name) := by
        rw [walk_cons_of_directory hplace hname, walk]
      rw [paveOne, if_neg hthere, toward_of_plain place hplain] at hrest
      apply Straight.cons _ hplace'
      rw [toward_of_plain place hplain] at hway ⊢
      obtain ⟨hup, hbelow⟩ := h [name] _ _ rfl hway hmissing
      exact straight_below hbelow hup hrest

/-- What names lead to along new directories was not there, unless they led to it before. -/
theorem Straight.walk_of_adds (h : Straight t place names) (hadds : Adds t u)
    (hwalk : u.walk place names = .ok q) :
    t.walk place names = .ok q ∨ ∀ below, t.node? (q ++ below) = none := by
  induction names generalizing place with
  | nil => exact .inl hwalk
  | cons name names ih =>
    obtain ⟨hplace, hname, hrest⟩ := walk_cons_eq_ok.1 hwalk
    rcases hadds place with hsame | ⟨hnone, -⟩
    · rw [hplace] at hsame
      rw [walk_cons_of_directory hsame.symm hname]
      exact ih (h.tail hsame.symm hname) hrest
    · obtain ⟨hup, hbelow⟩ := h [] _ place rfl rfl hnone
      obtain ⟨above, rfl⟩ := prefix_of_walk hup hwalk
      exact .inr fun below => by rw [List.append_assoc, hbelow]

/-- What is no directory among new directories was there before. -/
theorem Straight.seek_of_adds {above : List String} (h : Straight t place above)
    (hlast : last ∉ marks) (hadds : Adds t u) {node : Node}
    (hnode : u.seek place (above ++ [last]) = .ok node) :
    t.seek place (above ++ [last]) = .ok node ∨ node = .directory := by
  obtain ⟨q, hwalk, hq⟩ := seek_eq_ok_iff.1 hnode
  obtain ⟨home, rfl, hhome, hdirectory⟩ := exists_home_of_walk hwalk hlast
  rcases hadds (home ++ [last]) with hsame | ⟨-, hnew⟩
  · rw [hq] at hsame
    rcases h.walk_of_adds hadds hhome with hway | hbelow
    · rcases hadds home with hthere | ⟨hnone, -⟩
      · rw [hdirectory] at hthere
        have hfits := fits_of_walk hwalk last (List.mem_append_right _ List.mem_cons_self)
        have hend : t.walk home [last] = .ok (home ++ [last]) := by
          rw [walk_cons_of_directory hthere.symm hfits, toward_of_plain home hlast, walk]
        refine .inl (seek_eq_ok_iff.2 ⟨home ++ [last], ?_, hsame.symm⟩)
        rw [walk_append, hway]
        exact hend
      · obtain ⟨-, hbelow⟩ := h above [] home (List.append_nil _).symm hway hnone
        cases hsame.trans (hbelow [last])
    · cases hsame.trans (hbelow [last])
  · exact .inr (Option.some.inj (hq.symm.trans hnew))

theorem Straight.find_of_adds {above : List String} (h : Straight t [] above)
    (hnames : namesOf path = above ++ [last]) (hlast : last ∉ marks) (hadds : Adds t u)
    {node : Node} (hnode : u.find path = .ok node) :
    t.find path = .ok node ∨ node = .directory := by
  rw [find_eq] at hnode ⊢
  split_ifs at hnode ⊢
  rw [hnames] at hnode ⊢
  exact h.seek_of_adds hlast hadds hnode

end Provenance.Files.Tree
