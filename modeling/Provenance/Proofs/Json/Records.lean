import Provenance.Json.Shape
import Provenance.Proofs.Success

/-!
What is known of values that have been read. A record that is read, from an object or from
an array, is made of what its fields give, and each field gives what its decoder gives or
its value for absence.
-/

namespace Provenance.Shape

variable {α β γ : Type}

def Gives (decode : Decoder α) (P : α → Prop) : Prop :=
  ∀ json a, decode json = .ok a → P a

namespace Fields

structure Gives (fields : Fields α) (P : α → Prop) : Prop where
  members {members : List (String × Json)} {a : α} : fields.ofMembers members = .ok a → P a
  items {expected : String} {index : Nat} {items : List Json} {a : α} :
    fields.ofItems expected index items = .ok a → P a

theorem exists_of_both_eq_ok {f : α → β → γ} {left : Except Placed α} {right : Except Placed β}
    {c : γ} (h : both f left right = .ok c) :
    ∃ a b, left = .ok a ∧ right = .ok b ∧ f a b = c := by
  unfold both at h
  split at h
  · exact ⟨_, _, rfl, rfl, Except.ok.inj h⟩
  · cases h
  · cases h
  · split at h <;> cases h

theorem eq_ok_of_within {step : Step} {result : Except Mismatch α} {place : Nat} {a : α}
    (h : (within step result).mapError (place, ·) = .ok a) : result = .ok a :=
  mapError_eq_ok_iff.1 (mapError_eq_ok_iff.1 h)

variable {P : α → Prop}

theorem gives_of_forall (fields : Fields α) (h : ∀ a, P a) : fields.Gives P :=
  ⟨fun _ => h _, fun _ => h _⟩

theorem gives_any (fields : Fields α) : fields.Gives fun _ => True :=
  gives_of_forall fields fun _ => trivial

theorem gives_field {name : String} {decode : Decoder α} {absent : Option α}
    (hdecode : Shape.Gives decode P) (habsent : ∀ a ∈ absent, P a) :
    (field name decode absent).Gives P where
  members {members a} h := by
    simp only [field] at h
    split at h
    · split at h
      · exact habsent a (congrArg some (Except.ok.inj h))
      · cases h
    · exact hdecode _ _ (eq_ok_of_within h)
    · obtain ⟨-, -, hnone⟩ := exists_of_bind_eq_ok h
      cases hnone
  items {expected index items a} h := by
    cases items with
    | nil =>
      simp only [field] at h
      split at h
      · exact habsent a (congrArg some (Except.ok.inj h))
      · cases h
    | cons json items => exact hdecode _ _ (eq_ok_of_within h)

theorem gives_defaulted {name : String} {decode : Decoder α} {absent : α}
    (hdecode : Shape.Gives decode P) (habsent : P absent) :
    (defaulted name decode absent).Gives P :=
  gives_field hdecode fun _ ha => Option.some.inj ha ▸ habsent

theorem gives_map {Q : β → Prop} {f : α → β} {fields : Fields α}
    (h : fields.Gives fun a => Q (f a)) : (f <$> fields).Gives Q where
  members hok := by
    obtain ⟨a, ha, rfl⟩ := exists_of_map_eq_ok hok
    exact h.members ha
  items hok := by
    obtain ⟨a, ha, rfl⟩ := exists_of_map_eq_ok hok
    exact h.items ha

/-- One more field: the fields in front of it give a function that keeps to the property
on all that this field gives. -/
theorem gives_seq {Q : β → Prop} {left : Fields (α → β)} {right : Fields α}
    (hright : right.Gives P) (hleft : left.Gives fun f => ∀ a, P a → Q (f a)) :
    (left <*> right).Gives Q where
  members hok := by
    obtain ⟨f, a, hf, ha, rfl⟩ := exists_of_both_eq_ok hok
    exact hleft.members hf a (hright.members ha)
  items hok := by
    obtain ⟨f, a, hf, ha, rfl⟩ := exists_of_both_eq_ok hok
    exact hleft.items hf a (hright.items ha)

end Fields

theorem gives_record {surplus : Bool} {name : String} {closed : Bool} {fields : Fields α}
    {P : α → Prop} (h : fields.Gives P) : Gives (recordWith surplus name closed fields) P := by
  intro json a hok
  cases json with
  | object members =>
    obtain ⟨a, -, ha, -, rfl⟩ := Fields.exists_of_both_eq_ok (mapError_eq_ok_iff.1 hok)
    exact h.members ha
  | array elements =>
    obtain ⟨value, hvalue, hok⟩ := exists_of_bind_eq_ok hok
    split at hok
    · cases hok
    · rw [← Except.ok.inj hok]
      exact h.items (mapError_eq_ok_iff.1 hvalue)
  | null => cases hok
  | bool value => cases hok
  | number value => cases hok
  | string text => cases hok

end Provenance.Shape
