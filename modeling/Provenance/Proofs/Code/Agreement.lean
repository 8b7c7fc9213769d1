import Mathlib.Data.List.Forall2
import Mathlib.Order.Defs.Unbundled
import Provenance.Contract.Attestation
import Provenance.Proofs.Code.Decoding

/-!
Agreement of instruction streams as an order. Live code stands above compiled
code when operands that the compiler left zero have been filled in, and code is
determined by its instructions, so agreement both ways is equality. Of the
three levels of a comparison each implies the next.
-/

namespace Provenance.Code

theorem isFilledIn_iff {live compiled : Bytes} :
    isFilledIn live compiled = true ↔
      (∀ byte ∈ compiled, byte = 0) ∧ ∃ byte ∈ live, byte ≠ 0 := by
  simp [isFilledIn]

/-- Nothing that has been filled in is left to fill in. -/
theorem not_filledIn_twice {a b c : Bytes} (hab : isFilledIn a b = true)
    (hbc : isFilledIn b c = true) : False := by
  obtain ⟨hzero, -⟩ := isFilledIn_iff.1 hab
  obtain ⟨-, byte, hmem, hne⟩ := isFilledIn_iff.1 hbc
  exact hne (hzero byte hmem)

namespace Instruction

theorem agrees_iff {live compiled : Instruction} :
    live.agrees compiled = true ↔
      live.opcode = compiled.opcode ∧ live.operand.length = compiled.operand.length ∧
        (live.operand = compiled.operand ∨ isFilledIn live.operand compiled.operand = true) := by
  simp only [agrees, Bool.and_eq_true, Bool.or_eq_true, decide_eq_true_eq, and_assoc]

theorem agrees_refl (i : Instruction) : i.agrees i = true :=
  agrees_iff.2 ⟨rfl, rfl, Or.inl rfl⟩

theorem agrees_trans {i j k : Instruction} (hij : i.agrees j = true) (hjk : j.agrees k = true) :
    i.agrees k = true := by
  obtain ⟨hop, hlen, hoperand⟩ := agrees_iff.1 hij
  obtain ⟨hop', hlen', hoperand'⟩ := agrees_iff.1 hjk
  refine agrees_iff.2 ⟨hop.trans hop', hlen.trans hlen', ?_⟩
  rcases hoperand with heq | hfilled
  · rwa [heq]
  · rcases hoperand' with heq | hfilled'
    · exact Or.inr (heq ▸ hfilled)
    · exact absurd hfilled' (not_filledIn_twice hfilled)

/-- Two instructions that agree both ways differ in their places at most. -/
theorem bytes_eq_of_agrees {i j : Instruction} (hij : i.agrees j = true)
    (hji : j.agrees i = true) : i.bytes = j.bytes := by
  obtain ⟨hop, -, hoperand⟩ := agrees_iff.1 hij
  obtain ⟨-, -, hoperand'⟩ := agrees_iff.1 hji
  have heq : i.operand = j.operand := by
    rcases hoperand with heq | hfilled
    · exact heq
    · rcases hoperand' with heq | hfilled'
      · exact heq.symm
      · exact absurd hfilled' (not_filledIn_twice hfilled)
  rw [bytes, bytes, hop, heq]

theorem length_bytes_of_agrees {i j : Instruction} (h : i.agrees j = true) :
    i.bytes.length = j.bytes.length := by
  simp only [bytes, List.length_cons, (agrees_iff.1 h).2.1]

end Instruction

section Streams

variable {is js ks : List Instruction}

abbrev Agree (is js : List Instruction) : Prop :=
  List.Forall₂ (fun i j => i.agrees j = true) is js

theorem streamsAgree_iff : streamsAgree is js = true ↔ Agree is js := by
  induction is generalizing js with
  | nil => cases js <;> simp [streamsAgree]
  | cons i is ih =>
    cases js with
    | nil => simp [streamsAgree]
    | cons j js => simp [streamsAgree, ih]

theorem Agree.trans (hij : Agree is js) (hjk : Agree js ks) :
    Agree is ks := by
  induction hij generalizing ks with
  | nil => exact hjk
  | cons hhead _ ih =>
    cases hjk with
    | cons hhead' htail' => exact .cons (Instruction.agrees_trans hhead hhead') (ih htail')

theorem Agree.bytes_eq (hij : Agree is js) (hji : Agree js is) :
    is.flatMap Instruction.bytes = js.flatMap Instruction.bytes := by
  induction hij with
  | nil => rfl
  | cons hhead _ ih =>
    cases hji with
    | cons hhead' htail' =>
      rw [List.flatMap_cons, List.flatMap_cons, ih htail',
        Instruction.bytes_eq_of_agrees hhead hhead']

theorem Agree.length_bytes (h : Agree is js) :
    (is.flatMap Instruction.bytes).length = (js.flatMap Instruction.bytes).length := by
  induction h with
  | nil => rfl
  | cons hhead _ ih =>
    rw [List.flatMap_cons, List.flatMap_cons, List.length_append, List.length_append, ih,
      Instruction.length_bytes_of_agrees hhead]

end Streams

theorem instructionsAgree_iff {live compiled : Bytes} :
    instructionsAgree live compiled = true ↔ Agree (decode live) (decode compiled) :=
  streamsAgree_iff

theorem instructionsAgree_refl (code : Bytes) : instructionsAgree code code = true :=
  instructionsAgree_iff.2 (List.forall₂_same.2 fun i _ => i.agrees_refl)

theorem instructionsAgree_trans {a b c : Bytes} (hab : instructionsAgree a b = true)
    (hbc : instructionsAgree b c = true) : instructionsAgree a c = true :=
  instructionsAgree_iff.2 ((instructionsAgree_iff.1 hab).trans (instructionsAgree_iff.1 hbc))

/-- Agreement both ways leaves nothing but the same bytes. -/
theorem eq_of_instructionsAgree {a b : Bytes} (hab : instructionsAgree a b = true)
    (hba : instructionsAgree b a = true) : a = b := by
  have heq := (instructionsAgree_iff.1 hab).bytes_eq (instructionsAgree_iff.1 hba)
  rwa [flatMap_bytes_decode, flatMap_bytes_decode] at heq

/-- Filling in takes no room. -/
theorem length_eq_of_instructionsAgree {live compiled : Bytes}
    (h : instructionsAgree live compiled = true) : live.length = compiled.length := by
  have hlen := (instructionsAgree_iff.1 h).length_bytes
  rwa [flatMap_bytes_decode, flatMap_bytes_decode] at hlen

theorem isPartialOrder_instructionsAgree :
    IsPartialOrder Bytes fun live compiled => instructionsAgree live compiled = true where
  refl := instructionsAgree_refl
  trans _ _ _ := instructionsAgree_trans
  antisymm _ _ := eq_of_instructionsAgree

theorem runtime_of_direct {live compiled : Bytes} (h : (compare live compiled).direct = true) :
    (compare live compiled).runtime = true := by
  simp only [compare, decide_eq_true_eq] at h ⊢
  rw [h]

theorem opcode_of_runtime {live compiled : Bytes} (h : (compare live compiled).runtime = true) :
    (compare live compiled).opcode = true := by
  simp only [compare, decide_eq_true_eq] at h ⊢
  rw [h]
  exact instructionsAgree_refl _

theorem isVerified_eq_opcode (live compiled : Bytes) :
    (compare live compiled).isVerified = (compare live compiled).opcode := by
  have h := @opcode_of_runtime live compiled
  unfold Comparison.isVerified
  cases hr : (compare live compiled).runtime with
  | false => simp
  | true => simp [h hr]

theorem runtime_iff_opcode_both {a b : Bytes} :
    (compare a b).runtime = true ↔
      (compare a b).opcode = true ∧ (compare b a).opcode = true := by
  simp only [compare, decide_eq_true_eq]
  constructor
  · intro h
    rw [h]
    exact ⟨instructionsAgree_refl _, instructionsAgree_refl _⟩
  · rintro ⟨hab, hba⟩
    exact eq_of_instructionsAgree hab hba

/-- A verdict is of the candidate that was found and of the code that the node gave,
and holds their comparison. -/
theorem eq_ok_of_verify {id : ContractIdentity} {contracts : Contracts} {name : String}
    {path : Option String} {live : Except String Bytes} {verdict : Verdict}
    (h : verify id contracts name path live = .ok verdict) :
    Candidate.find contracts name path = .ok verdict.candidate ∧ live = .ok verdict.liveCode ∧
      verdict.comparison = compare verdict.liveCode verdict.candidate.code := by
  unfold verify at h
  cases hfind : Candidate.find contracts name path with
  | error fault => simp [hfind, bind, Except.bind] at h
  | ok candidate =>
    cases live with
    | error text => simp [hfind, bind, Except.bind, Except.mapError] at h
    | ok code =>
      simp only [hfind, bind, Except.bind, Except.mapError, Candidate.judge] at h
      split at h
      · cases h
      · cases h
        exact ⟨rfl, rfl, rfl⟩

/-- A verdict holds the comparison of the live code with the candidate's. -/
theorem comparison_of_verify {id : ContractIdentity} {contracts : Contracts} {name : String}
    {path : Option String} {live : Except String Bytes} {verdict : Verdict}
    (h : verify id contracts name path live = .ok verdict) :
    verdict.comparison = compare verdict.liveCode verdict.candidate.code :=
  (eq_ok_of_verify h).2.2

/-- The levels of a comparison form a hierarchy whose tolerant end is a partial
order: each level implies the next, so verification comes down to the opcode
level; the runtime level is that level in both directions; and the opcode level
passes along chains of code. -/
theorem levels_form_hierarchy :
    IsPartialOrder Bytes (fun live compiled => instructionsAgree live compiled = true) ∧
      (∀ a b : Bytes,
        ((compare a b).direct = true → (compare a b).runtime = true) ∧
          ((compare a b).runtime = true → (compare a b).opcode = true) ∧
          (compare a b).isVerified = (compare a b).opcode ∧
          ((compare a b).runtime = true ↔
            (compare a b).opcode = true ∧ (compare b a).opcode = true)) ∧
      (∀ a b c : Bytes, (compare a b).opcode = true → (compare b c).opcode = true →
        (compare a c).opcode = true) ∧
      ∀ id contracts name path live verdict, verify id contracts name path live = .ok verdict →
        verdict.comparison.isVerified = verdict.comparison.opcode := by
  refine ⟨isPartialOrder_instructionsAgree, fun a b => ?_, ?_, ?_⟩
  · exact ⟨runtime_of_direct, opcode_of_runtime, isVerified_eq_opcode a b,
      runtime_iff_opcode_both⟩
  · intro a b c hab hbc
    exact instructionsAgree_trans hab hbc
  · intro id contracts name path live verdict h
    rw [comparison_of_verify h]
    exact isVerified_eq_opcode _ _

end Provenance.Code
