import Provenance.Json.Value

/-!
The order of members. Sorting gives every name once and the names in increasing order,
and it takes nothing in that was not there. Members in order stay as they are, so a
value that has been sorted is sorted.
-/

namespace Provenance.Json

/-! Values and their parts -/

def IsLeaf : Json → Prop
  | .array _ => False
  | .object _ => False
  | _ => True

/-- What holds of a value if it holds of its parts holds of all values. -/
@[elab_as_elim]
theorem inductOnParts {motive : Json → Prop} (leaf : ∀ json : Json, json.IsLeaf → motive json)
    (array : ∀ items, (∀ item ∈ items, motive item) → motive (.array items))
    (object : ∀ members, (∀ m ∈ members, motive m.2) → motive (.object members))
    (json : Json) : motive json := by
  refine @Json.rec motive (fun items => ∀ item ∈ items, motive item)
    (fun members => ∀ m ∈ members, motive m.2) (fun m => motive m.2)
    (leaf _ trivial) (fun _ => leaf _ trivial) (fun _ => leaf _ trivial) (fun _ => leaf _ trivial)
    array object ?_ ?_ ?_ ?_ (fun _ _ h => h) json
  · exact fun _ hitem => absurd hitem List.not_mem_nil
  · exact fun _ _ hitem hitems => List.forall_mem_cons.2 ⟨hitem, hitems⟩
  · exact fun _ hm => absurd hm List.not_mem_nil
  · exact fun _ _ hm hmembers => List.forall_mem_cons.2 ⟨hm, hmembers⟩

/-! Members in order -/

def AreOrdered (members : List (String × Json)) : Prop :=
  members.Pairwise fun m m' => m.1 < m'.1

variable {name : String} {value : Json} {members : List (String × Json)}

theorem mem_insertMember {m : String × Json} (h : m ∈ insertMember name value members) :
    m = (name, value) ∨ m ∈ members := by
  induction members with
  | nil => exact .inl (List.mem_singleton.1 h)
  | cons first rest ih =>
    obtain ⟨other, old⟩ := first
    rw [insertMember] at h
    split at h
    · exact List.mem_cons.1 h
    split at h
    · exact (List.mem_cons.1 h).imp_right (List.mem_cons_of_mem _)
    · rcases List.mem_cons.1 h with rfl | h
      · exact .inr List.mem_cons_self
      · exact (ih h).imp_right (List.mem_cons_of_mem _)

theorem areOrdered_insertMember (h : AreOrdered members) :
    AreOrdered (insertMember name value members) := by
  induction members with
  | nil => exact List.pairwise_singleton _ _
  | cons first rest ih =>
    obtain ⟨other, old⟩ := first
    obtain ⟨hfirst, hrest⟩ := List.pairwise_cons.1 h
    rw [insertMember]
    split
    · rename_i hless
      refine List.pairwise_cons.2 ⟨fun m hm => ?_, h⟩
      rcases List.mem_cons.1 hm with rfl | hm
      · exact hless
      · exact String.lt_trans hless (hfirst m hm)
    split
    · rename_i heq
      subst heq
      exact List.pairwise_cons.2 ⟨hfirst, hrest⟩
    · rename_i hless hne
      have hmore : other < name :=
        String.not_le.1 fun hle => hne (String.le_antisymm hle (String.not_lt.1 hless))
      refine List.pairwise_cons.2 ⟨fun m hm => ?_, ih hrest⟩
      rcases mem_insertMember hm with rfl | hm
      · exact hmore
      · exact hfirst m hm

/-- A member whose name comes behind all others is put behind them. -/
theorem insertMember_eq_append (h : ∀ m ∈ members, m.1 < name) :
    insertMember name value members = members ++ [(name, value)] := by
  induction members with
  | nil => rfl
  | cons first rest ih =>
    obtain ⟨other, old⟩ := first
    have hmore : other < name := h _ List.mem_cons_self
    have hne : name ≠ other := by
      rintro rfl
      exact String.lt_irrefl _ hmore
    rw [insertMember, if_neg (String.lt_asymm hmore), if_neg hne,
      ih fun m hm => h m (List.mem_cons_of_mem _ hm), List.cons_append]

def insertAll (done members : List (String × Json)) : List (String × Json) :=
  members.foldl (fun acc (name, value) => insertMember name value acc) done

theorem mem_insertAll {m : String × Json} {done : List (String × Json)}
    (h : m ∈ insertAll done members) : m ∈ done ∨ m ∈ members := by
  induction members generalizing done with
  | nil => exact .inl h
  | cons first rest ih =>
    rcases ih h with hdone | hrest
    · rcases mem_insertMember hdone with rfl | hdone
      · exact .inr List.mem_cons_self
      · exact .inl hdone
    · exact .inr (List.mem_cons_of_mem _ hrest)

theorem areOrdered_insertAll {done : List (String × Json)} (h : AreOrdered done) :
    AreOrdered (insertAll done members) := by
  induction members generalizing done with
  | nil => exact h
  | cons first rest ih => exact ih (areOrdered_insertMember h)

theorem insertAll_eq_append {done : List (String × Json)} (h : AreOrdered (done ++ members)) :
    insertAll done members = done ++ members := by
  induction members generalizing done with
  | nil => exact (List.append_nil done).symm
  | cons first rest ih =>
    obtain ⟨name, value⟩ := first
    have hbehind : ∀ m ∈ done, m.1 < name := fun m hm =>
      (List.pairwise_append.1 h).2.2 m hm _ List.mem_cons_self
    rw [List.append_cons] at h ⊢
    rw [← ih h, ← insertMember_eq_append hbehind]
    rfl

theorem mem_sortMembers {m : String × Json} (h : m ∈ sortMembers members) : m ∈ members :=
  (mem_insertAll h).resolve_left List.not_mem_nil

theorem areOrdered_sortMembers (members : List (String × Json)) :
    AreOrdered (sortMembers members) := areOrdered_insertAll List.Pairwise.nil

theorem sortMembers_eq_self (h : AreOrdered members) : sortMembers members = members :=
  insertAll_eq_append h

/-! Values with their objects sorted -/

theorem sorted_leaf {json : Json} (h : json.IsLeaf) : json.sorted = json := by
  cases json with
  | null | bool | number | string => rfl
  | array | object => exact h.elim

theorem sortedItems_eq_map (items : List Json) : sortedItems items = items.map sorted := by
  induction items with
  | nil => rfl
  | cons item items ih => rw [sortedItems, ih, List.map_cons]

theorem sortedMembers_eq_map (members : List (String × Json)) :
    sortedMembers members = members.map fun m => (m.1, m.2.sorted) := by
  induction members with
  | nil => rfl
  | cons member members ih => rw [sortedMembers, ih, List.map_cons]

/-- The members of a sorted object are members of the object, sorted. -/
theorem exists_of_mem_sorted {m : String × Json} (h : m ∈ sortMembers (sortedMembers members)) :
    ∃ value, (m.1, value) ∈ members ∧ m.2 = value.sorted := by
  have hsorted := mem_sortMembers h
  rw [sortedMembers_eq_map] at hsorted
  obtain ⟨⟨name, value⟩, hmem, rfl⟩ := List.mem_map.1 hsorted
  exact ⟨value, hmem, rfl⟩

/-- Sorting twice is sorting once. -/
theorem sorted_sorted (json : Json) : json.sorted.sorted = json.sorted := by
  induction json using inductOnParts with
  | leaf json h => rw [sorted_leaf h, sorted_leaf h]
  | array items ih =>
    rw [sorted, sorted, sortedItems_eq_map, sortedItems_eq_map, List.map_map]
    exact congrArg array (List.map_congr_left ih)
  | object members ih =>
    have hvalues : sortedMembers (sortMembers (sortedMembers members)) =
        sortMembers (sortedMembers members) := by
      rw [sortedMembers_eq_map (sortMembers _)]
      refine (List.map_congr_left fun m hm => ?_).trans (List.map_id _)
      obtain ⟨value, hmem, hvalue⟩ := exists_of_mem_sorted hm
      rw [hvalue, ih _ hmem, ← hvalue, id]
    rw [sorted, sorted, hvalues, sortMembers_eq_self (areOrdered_sortMembers _)]

end Provenance.Json
