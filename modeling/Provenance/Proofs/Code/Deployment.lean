import Provenance.Proofs.Code.Agreement
import Provenance.Proofs.Code.Stripping

/-!
What deployment does to code: operands that the compiler left zero are given
the values of immutable variables. The filled-in code decodes to the same
instructions with other operands. Stripping works on bytes and not on
instructions, so a value that spells a trailer is cut out of the live code; any
other values keep the two codes in agreement.
-/

namespace Provenance.Code

structure SameShape (i j : Instruction) : Prop where
  offset : i.offset = j.offset
  opcode : i.opcode = j.opcode
  width : i.operand.length = j.operand.length

structure FillsIn (live compiled : Instruction) : Prop extends SameShape live compiled where
  push : isPush compiled.opcode = true
  zero : ∀ byte ∈ compiled.operand, byte = 0
  value : ∃ byte ∈ live.operand, byte ≠ 0

def FilledStream (lives compileds : List Instruction) : Prop :=
  List.Forall₂ (fun live compiled => live = compiled ∨ FillsIn live compiled) lives compileds

def Deploys (live compiled : Bytes) : Prop :=
  ∃ stream, FilledStream stream (decode compiled) ∧ stream ≠ decode compiled ∧
    live = stream.flatMap Instruction.bytes

/-- Another operand of the same width is cut off at the same place, also where
the end of the code has cut the first one short. -/
theorem cut_operand {width : Nat} {rest value tail : Bytes}
    (hvalue : value.length = (rest.take width).length)
    (htail : rest.drop width = [] → tail = []) :
    (value ++ tail).take width = value ∧ (value ++ tail).drop width = tail := by
  rw [List.length_take] at hvalue
  by_cases hfull : width ≤ rest.length
  · have hlen : value.length = width := by omega
    exact ⟨List.take_left' hlen, List.drop_left' hlen⟩
  · have hlen : value.length ≤ width := by omega
    have hlast : tail = [] := htail (List.drop_eq_nil_of_le (by omega))
    subst hlast
    rw [List.append_nil]
    exact ⟨List.take_of_length_le hlen, List.drop_eq_nil_of_le hlen⟩

/-- Operands of the same widths leave every instruction at its place. -/
theorem decodeFrom_of_sameShape {offset : Nat} {code : Bytes} {stream : List Instruction}
    (h : List.Forall₂ SameShape stream (decodeFrom offset code)) :
    decodeFrom offset (stream.flatMap Instruction.bytes) = stream := by
  induction offset, code using decodeFrom.induct generalizing stream with
  | case1 offset =>
    rw [decodeFrom] at h
    cases h
    rw [List.flatMap_nil, decodeFrom]
  | case2 offset opcode rest operand =>
    rename_i ih
    rw [decodeFrom] at h
    obtain ⟨i, is, hshape, htail, rfl⟩ := List.forall₂_cons_right_iff.1 h
    obtain ⟨place, op, value⟩ := i
    obtain ⟨rfl, rfl, hwidth⟩ := hshape
    have his := ih htail
    have hlast (hend : rest.drop (operandWidth op) = []) :
        is.flatMap Instruction.bytes = [] := by
      rw [hend, decodeFrom] at htail
      rw [List.forall₂_nil_right_iff.1 htail, List.flatMap_nil]
    obtain ⟨htake, hdrop⟩ := cut_operand hwidth hlast
    rw [List.flatMap_cons, Instruction.bytes, List.cons_append, decodeFrom, htake, hdrop, hwidth,
      his]

theorem FilledStream.sameShape {lives compileds : List Instruction}
    (h : FilledStream lives compileds) : List.Forall₂ SameShape lives compileds := by
  refine List.Forall₂.imp ?_ h
  rintro live compiled (rfl | hfills)
  · exact ⟨rfl, rfl, rfl⟩
  · exact hfills.toSameShape

theorem FilledStream.agree {lives compileds : List Instruction}
    (h : FilledStream lives compileds) : Agree lives compileds := by
  refine List.Forall₂.imp ?_ h
  rintro live compiled (rfl | hfills)
  · exact live.agrees_refl
  · exact Instruction.agrees_iff.2 ⟨hfills.opcode, hfills.width,
      Or.inr (isFilledIn_iff.2 ⟨hfills.zero, hfills.value⟩)⟩

namespace Deploys

variable {live compiled : Bytes}

theorem ne (h : Deploys live compiled) : live ≠ compiled := by
  obtain ⟨stream, hfilled, hne, rfl⟩ := h
  intro heq
  have hdecode := decodeFrom_of_sameShape hfilled.sameShape
  rw [heq] at hdecode
  exact hne hdecode.symm

theorem agree (h : Deploys live compiled) : instructionsAgree live compiled = true := by
  obtain ⟨stream, hfilled, -, rfl⟩ := h
  have hdecode : decode (stream.flatMap Instruction.bytes) = stream :=
    decodeFrom_of_sameShape hfilled.sameShape
  rw [instructionsAgree_iff, hdecode]
  exact hfilled.agree

end Deploys

/-- Of two codes of one length, one that loses a trailer comes out shorter than
the other. -/
theorem not_agree_of_trailers {live compiled : Bytes} (hlen : live.length = compiled.length)
    (htrailers : trailers live ≠ []) : instructionsAgree (strip live) compiled ≠ true := by
  intro hagree
  have hstripped := length_eq_of_instructionsAgree hagree
  have hpass := stripOnce_length_lt htrailers
  have hrest := (strip_sublist (stripOnce live)).length_le
  rw [← strip_of_trailers htrailers] at hrest
  omega

/-- Filling in values is never invisible, and the opcode level tolerates it
exactly as long as the values, with the bytes around them, spell no trailer. -/
theorem deployment_tolerated_iff {live compiled : Bytes} (hcompiled : trailers compiled = [])
    (h : Deploys live compiled) :
    (compare live compiled).direct = false ∧ (compare live compiled).runtime = false ∧
      ((compare live compiled).opcode = true ↔ trailers live = []) := by
  have hlen := length_eq_of_instructionsAgree h.agree
  have hstrip := strip_of_no_trailers hcompiled
  refine ⟨?_, ?_, ?_⟩
  · simpa only [compare, decide_eq_false_iff_not] using h.ne
  · simp only [compare, decide_eq_false_iff_not, hstrip]
    intro heq
    by_cases htrailers : trailers live = []
    · exact h.ne (strip_of_no_trailers htrailers ▸ heq)
    · exact not_agree_of_trailers hlen htrailers (heq ▸ instructionsAgree_refl _)
  · simp only [compare, hstrip]
    constructor
    · intro hagree
      by_contra htrailers
      exact not_agree_of_trailers hlen htrailers hagree
    · intro htrailers
      rw [strip_of_no_trailers htrailers]
      exact h.agree

def pushWord (value : Bytes) : Bytes := 0x7F :: value

theorem deploys_pushWord {value : Bytes} (hlen : value.length = 32)
    (hvalue : ∃ byte ∈ value, byte ≠ 0) :
    Deploys (pushWord value) (pushWord (List.replicate 32 0)) := by
  have hdecode : decode (pushWord (List.replicate 32 0)) =
      [⟨0, 0x7F, List.replicate 32 0⟩] := by decide +kernel
  have hfills : FillsIn ⟨0, 0x7F, value⟩ ⟨0, 0x7F, List.replicate 32 0⟩ :=
    { offset := rfl
      opcode := rfl
      width := by simpa using hlen
      push := by decide
      zero := fun byte hmem => List.eq_of_mem_replicate hmem
      value := hvalue }
  refine ⟨[⟨0, 0x7F, value⟩], ?_, ?_, ?_⟩
  · rw [hdecode]
    exact .cons (Or.inr hfills) .nil
  · rw [hdecode]
    intro heq
    obtain ⟨byte, hmem, hne⟩ := hvalue
    have hzero : value = List.replicate 32 0 := by simpa using heq
    exact hne (List.eq_of_mem_replicate (hzero ▸ hmem))
  · simp [pushWord, Instruction.bytes]

/-- A variable with the value forty-two. -/
theorem deployment_tolerated_small :
    let live := pushWord (List.replicate 31 0 ++ [0x2A])
    let compiled := pushWord (List.replicate 32 0)
    trailers compiled = [] ∧ Deploys live compiled ∧
      (compare live compiled).direct = false ∧ (compare live compiled).opcode = true := by
  intro live compiled
  have hcompiled : trailers compiled = [] := by decide +kernel
  have hlive : trailers live = [] := by decide +kernel
  have hdeploys : Deploys live compiled := deploys_pushWord (by decide) (by decide)
  have h := deployment_tolerated_iff hcompiled hdeploys
  exact ⟨hcompiled, hdeploys, h.1, h.2.2.2 hlive⟩

/-- A variable whose value ends with the record of a release and its size: the
live code loses the trailer and with it the end of its only operand. -/
theorem deployed_trailer_disagrees :
    let live := pushWord (List.replicate 20 0 ++
      [0xA1, 0x64, 0x73, 0x6F, 0x6C, 0x63, 0x43, 0x00, 0x08, 0x09, 0x00, 0x0A])
    let compiled := pushWord (List.replicate 32 0)
    trailers compiled = [] ∧ Deploys live compiled ∧ (compare live compiled).opcode = false := by
  intro live compiled
  exact ⟨by decide +kernel, deploys_pushWord (by decide) (by decide), by decide +kernel⟩

end Provenance.Code
