import Provenance.Proofs.Code.Deployment

/-!
Filling in, on the bytes. Live code agrees with compiled code exactly if it is the
compiled code with values written over some of the operands that the compiler left zero.
Every instruction stays at its place, so that no byte of a value is taken for an opcode.
-/

namespace Provenance.Code

/-- A push of zeros. The end of the code may have cut it short. -/
structure Placeholder (i : Instruction) : Prop where
  push : isPush i.opcode = true
  nonempty : i.operand ≠ []
  zero : ∀ byte ∈ i.operand, byte = 0

structure Overwriting where
  place : Instruction
  value : Bytes

namespace Overwriting

def apply (code : Bytes) (o : Overwriting) : Bytes :=
  code.take (o.place.offset + 1) ++ o.value ++ code.drop (o.place.offset + 1 + o.value.length)

structure Fits (o : Overwriting) : Prop where
  placeholder : Placeholder o.place
  length : o.value.length = o.place.operand.length
  nonzero : ∃ byte ∈ o.value, byte ≠ 0

theorem apply_append {front operand rest : Bytes} {o : Overwriting}
    (hplace : o.place.offset + 1 = front.length) (hlength : o.value.length = operand.length) :
    apply (front ++ (operand ++ rest)) o = front ++ (o.value ++ rest) := by
  rw [apply, hplace, hlength, List.take_left, ← List.append_assoc front operand,
    ← List.length_append, List.drop_left, List.append_assoc]

end Overwriting

/-- Some of the instructions, in their order, each with a value that fits. -/
structure Chosen (choices : List Overwriting) (stream : List Instruction) : Prop where
  sublist : (choices.map Overwriting.place).Sublist stream
  fits : ∀ o ∈ choices, o.Fits

theorem isPush_of_operand {opcode : UInt8} {rest : Bytes}
    (h : rest.take (operandWidth opcode) ≠ []) : isPush opcode = true := by
  by_contra hpush
  rw [operandWidth, if_neg hpush, List.take_zero] at h
  exact h rfl

theorem FillsIn.placeholder {live compiled : Instruction} (h : FillsIn live compiled) :
    Placeholder compiled where
  push := h.push
  nonempty hnil := by
    obtain ⟨byte, hmem, -⟩ := h.value
    have hwidth := h.width
    rw [hnil, List.length_nil] at hwidth
    exact List.ne_nil_of_mem hmem (List.length_eq_zero_iff.1 hwidth)
  zero := h.zero

/-- Streams that agree have drifted apart nowhere: agreement is filling in. -/
theorem filledStream_of_agree {offset : Nat} {live compiled : Bytes}
    (h : Agree (decodeFrom offset live) (decodeFrom offset compiled)) :
    FilledStream (decodeFrom offset live) (decodeFrom offset compiled) := by
  induction offset, compiled using decodeFrom.induct generalizing live with
  | case1 offset =>
    rw [decodeFrom_nil] at h ⊢
    rw [List.forall₂_nil_right_iff.1 h]
    exact .nil
  | case2 offset opcode rest operand =>
    rename_i ih
    cases live with
    | nil =>
      rw [decodeFrom_nil, decodeFrom_cons] at h
      cases h
    | cons opcode' rest' =>
      rw [decodeFrom_cons, decodeFrom_cons] at h ⊢
      obtain ⟨hagrees, htail⟩ := List.forall₂_cons.1 h
      obtain ⟨rfl, hwidth, hoperand⟩ := Instruction.agrees_iff.1 hagrees
      dsimp only at hwidth hoperand
      rw [hwidth] at htail ⊢
      refine .cons ?_ (ih htail)
      rcases hoperand with heq | hfilled
      · exact .inl (by rw [heq])
      · obtain ⟨hzero, hvalue⟩ := isFilledIn_iff.1 hfilled
        have hpush := isPush_of_operand (List.ne_nil_of_mem hvalue.choose_spec.1)
        exact .inr ⟨⟨rfl, rfl, hwidth⟩, hpush, hzero, hvalue⟩

theorem instructionsAgree_iff_filledStream {live compiled : Bytes} :
    instructionsAgree live compiled = true ↔ FilledStream (decode live) (decode compiled) :=
  instructionsAgree_iff.trans ⟨filledStream_of_agree, FilledStream.agree⟩

theorem map_eq_of_sameShape {α : Type} {f : Instruction → α}
    (hf : ∀ i j, SameShape i j → f i = f j) {is js : List Instruction}
    (h : List.Forall₂ SameShape is js) : is.map f = js.map f := by
  induction h with
  | nil => rfl
  | cons hhead _ ih => rw [List.map_cons, List.map_cons, hf _ _ hhead, ih]

/-- A byte that has changed stands in a placeholder. -/
theorem FilledStream.exists_placeholder {offset : Nat} {code : Bytes} {lives : List Instruction}
    (h : FilledStream lives (decodeFrom offset code)) {k : Nat}
    (hne : (lives.flatMap Instruction.bytes)[k]? ≠ code[k]?) :
    ∃ i ∈ decodeFrom offset code, Placeholder i ∧
      i.offset < offset + k ∧ offset + k ≤ i.offset + i.operand.length := by
  induction offset, code using decodeFrom.induct generalizing lives k with
  | case1 offset =>
    rw [decodeFrom_nil] at h
    rw [List.forall₂_nil_right_iff.1 h] at hne
    exact absurd rfl hne
  | case2 offset opcode rest operand =>
    rename_i ih
    have hshapes := h.sameShape
    rw [decodeFrom_cons] at h hshapes ⊢
    obtain ⟨i, lives, hhead, htail, rfl⟩ := List.forall₂_cons_right_iff.1 h
    obtain ⟨hshape, -⟩ := List.forall₂_cons.1 hshapes
    have hwidth : i.operand.length = operand.length := hshape.width
    rw [List.flatMap_cons, Instruction.bytes, List.cons_append] at hne
    cases k with
    | zero => exact absurd (congrArg some hshape.opcode) hne
    | succ k =>
      rw [List.getElem?_cons_succ, List.getElem?_cons_succ,
        ← List.take_append_drop (operandWidth opcode) rest] at hne
      change _ ≠ (operand ++ _)[k]? at hne
      by_cases hk : k < operand.length
      · rw [List.getElem?_append_left hk, List.getElem?_append_left (hwidth ▸ hk)] at hne
        have hfills : FillsIn i ⟨offset, opcode, operand⟩ :=
          hhead.resolve_left fun heq => hne (by rw [heq])
        refine ⟨_, List.mem_cons_self, hfills.placeholder, ?_, ?_⟩
        · exact Nat.lt_add_of_pos_right (Nat.succ_pos k)
        · exact Nat.add_le_add_left hk offset
      · rw [List.getElem?_append_right (Nat.le_of_not_lt hk),
          List.getElem?_append_right (hwidth ▸ Nat.le_of_not_lt hk), hwidth] at hne
        obtain ⟨j, hmem, hplaceholder, hlt, hle⟩ := ih htail hne
        exact ⟨j, List.mem_cons_of_mem _ hmem, hplaceholder, by omega, by omega⟩

theorem append_instruction (front : Bytes) (opcode : UInt8) (rest : Bytes) (width : Nat) :
    front ++ opcode :: rest = (front ++ opcode :: rest.take width) ++ rest.drop width := by
  rw [List.append_assoc, List.cons_append, List.take_append_drop]

theorem apply_instruction {front rest : Bytes} {opcode : UInt8} {width : Nat} {o : Overwriting}
    (hplace : o.place.offset = front.length) (hlength : o.value.length = (rest.take width).length) :
    Overwriting.apply (front ++ opcode :: rest) o =
      (front ++ opcode :: o.value) ++ rest.drop width := by
  have happend := @Overwriting.apply_append (front ++ [opcode]) (rest.take width) (rest.drop width)
    o (by rw [hplace, List.length_append, List.length_singleton]) hlength
  simpa only [List.append_assoc, List.take_append_drop, List.cons_append, List.nil_append]
    using happend

/-- Filled-in instructions are values written over the code. -/
theorem FilledStream.exists_chosen {offset : Nat} {code : Bytes} {lives : List Instruction}
    (h : FilledStream lives (decodeFrom offset code)) (front : Bytes)
    (hfront : front.length = offset) :
    ∃ choices, Chosen choices (decodeFrom offset code) ∧
      choices.foldl Overwriting.apply (front ++ code) =
        front ++ lives.flatMap Instruction.bytes := by
  induction offset, code using decodeFrom.induct generalizing lives front with
  | case1 offset =>
    rw [decodeFrom_nil] at h ⊢
    rw [List.forall₂_nil_right_iff.1 h]
    exact ⟨[], ⟨List.Sublist.refl _, by simp⟩, rfl⟩
  | case2 offset opcode rest operand =>
    rename_i ih
    have hshapes := h.sameShape
    rw [decodeFrom_cons] at h hshapes ⊢
    obtain ⟨i, lives, hhead, htail, rfl⟩ := List.forall₂_cons_right_iff.1 h
    obtain ⟨hshape, -⟩ := List.forall₂_cons.1 hshapes
    have hwidth : i.operand.length = operand.length := hshape.width
    have hbehind : (front ++ opcode :: i.operand).length = offset + 1 + operand.length := by
      rw [List.length_append, List.length_cons, hfront, hwidth]
      omega
    obtain ⟨choices, hchosen, hchoices⟩ := ih htail _ hbehind
    have hlives : front ++ (i :: lives).flatMap Instruction.bytes =
        (front ++ opcode :: i.operand) ++ lives.flatMap Instruction.bytes := by
      rw [List.flatMap_cons, Instruction.bytes, hshape.opcode, List.append_assoc]
    rw [hlives, ← hchoices]
    rcases hhead with rfl | hfills
    · refine ⟨choices, ⟨hchosen.sublist.cons _, hchosen.fits⟩, ?_⟩
      rw [append_instruction front opcode rest (operandWidth opcode)]
    · let o : Overwriting := ⟨⟨offset, opcode, operand⟩, i.operand⟩
      have hfits : o.Fits := ⟨hfills.placeholder, hwidth, hfills.value⟩
      refine ⟨o :: choices, ⟨hchosen.sublist.cons_cons _, ?_⟩, ?_⟩
      · exact List.forall_mem_cons.2 ⟨hfits, hchosen.fits⟩
      · rw [List.foldl_cons, apply_instruction hfront.symm hwidth]

/-- Values written over the code fill in its instructions. -/
theorem Chosen.exists_filledStream {offset : Nat} {code : Bytes} {choices : List Overwriting}
    (h : Chosen choices (decodeFrom offset code)) (front : Bytes)
    (hfront : front.length = offset) :
    ∃ lives, FilledStream lives (decodeFrom offset code) ∧
      choices.foldl Overwriting.apply (front ++ code) =
        front ++ lives.flatMap Instruction.bytes := by
  induction offset, code using decodeFrom.induct generalizing choices front with
  | case1 offset =>
    rw [decodeFrom_nil] at h ⊢
    obtain rfl := List.map_eq_nil_iff.1 (List.sublist_nil.1 h.sublist)
    exact ⟨[], .nil, rfl⟩
  | case2 offset opcode rest operand =>
    rename_i ih
    rw [decodeFrom_cons] at h ⊢
    have hbehind (value : Bytes) (hvalue : value.length = operand.length) :
        (front ++ opcode :: value).length = offset + 1 + operand.length := by
      rw [List.length_append, List.length_cons, hfront, hvalue]
      omega
    rcases List.sublist_cons_iff.1 h.sublist with hlater | ⟨places, hplaces, hlater⟩
    · obtain ⟨lives, hfilled, hlives⟩ := ih ⟨hlater, h.fits⟩ _ (hbehind operand rfl)
      refine ⟨⟨offset, opcode, operand⟩ :: lives, .cons (.inl rfl) hfilled, ?_⟩
      rw [append_instruction front opcode rest (operandWidth opcode), hlives, List.append_assoc]
      rfl
    · obtain ⟨o, choices, rfl, hplace, rfl⟩ := List.map_eq_cons_iff.1 hplaces
      obtain ⟨hfits, hrest⟩ := List.forall_mem_cons.1 h.fits
      have hwidth : o.value.length = operand.length := by rw [hfits.length, hplace]
      obtain ⟨lives, hfilled, hlives⟩ := ih ⟨hlater, hrest⟩ _ (hbehind o.value hwidth)
      have hplaceholder := hplace ▸ hfits.placeholder
      have hfills : FillsIn ⟨offset, opcode, o.value⟩ ⟨offset, opcode, operand⟩ :=
        ⟨⟨rfl, rfl, hwidth⟩, hplaceholder.push, hplaceholder.zero, hfits.nonzero⟩
      refine ⟨⟨offset, opcode, o.value⟩ :: lives, .cons (.inr hfills) hfilled, ?_⟩
      rw [List.foldl_cons, apply_instruction (by rw [hplace, hfront]) hwidth, hlives,
        List.append_assoc]
      rfl

theorem instructionsAgree_iff_chosen {live compiled : Bytes} :
    instructionsAgree live compiled = true ↔ ∃ choices, Chosen choices (decode compiled) ∧
      live = choices.foldl Overwriting.apply compiled := by
  constructor
  · intro h
    obtain ⟨choices, hchosen, hchoices⟩ :=
      (instructionsAgree_iff_filledStream.1 h).exists_chosen [] rfl
    rw [List.nil_append, List.nil_append, flatMap_bytes_decode] at hchoices
    exact ⟨choices, hchosen, hchoices.symm⟩
  · rintro ⟨choices, hchosen, rfl⟩
    obtain ⟨lives, hfilled, hlives⟩ := hchosen.exists_filledStream [] rfl
    rw [List.nil_append, List.nil_append] at hlives
    have hdecode : decode (lives.flatMap Instruction.bytes) = lives :=
      decodeFrom_of_sameShape hfilled.sameShape
    rw [instructionsAgree_iff, hlives, hdecode]
    exact hfilled.agree

/-- Where codes that agree differ, the compiled one has a placeholder. -/
theorem exists_placeholder_of_agree {live compiled : Bytes}
    (h : instructionsAgree live compiled = true) {index : Nat}
    (hne : live[index]? ≠ compiled[index]?) : ∃ i ∈ decode compiled, Placeholder i ∧
      i.offset < index ∧ index ≤ i.offset + i.operand.length := by
  have hcovers := (instructionsAgree_iff_filledStream.1 h).exists_placeholder (k := index)
  rw [flatMap_bytes_decode, Nat.zero_add] at hcovers
  exact hcovers hne

/-- Live code agrees with compiled code exactly if it is the compiled code with values
written over placeholders of one's choice. Then both have the same length and the same
opcodes at the same places, and differ in the operands of placeholders only. -/
theorem instructionsAgree_iff_overwritten (live compiled : Bytes) :
    (instructionsAgree live compiled = true ↔ ∃ choices, Chosen choices (decode compiled) ∧
      live = choices.foldl Overwriting.apply compiled) ∧
    (instructionsAgree live compiled = true →
      live.length = compiled.length ∧
      (decode live).map Instruction.offset = (decode compiled).map Instruction.offset ∧
      (decode live).map Instruction.opcode = (decode compiled).map Instruction.opcode ∧
      ∀ index, live[index]? ≠ compiled[index]? → ∃ i ∈ decode compiled, Placeholder i ∧
        i.offset < index ∧ index ≤ i.offset + i.operand.length) := by
  refine ⟨instructionsAgree_iff_chosen, fun h => ⟨length_eq_of_instructionsAgree h, ?_, ?_, ?_⟩⟩
  · have hshapes := (instructionsAgree_iff_filledStream.1 h).sameShape
    exact map_eq_of_sameShape (fun _ _ => SameShape.offset) hshapes
  · have hshapes := (instructionsAgree_iff_filledStream.1 h).sameShape
    exact map_eq_of_sameShape (fun _ _ => SameShape.opcode) hshapes
  · exact fun index => exists_placeholder_of_agree h

/-- An operand that the end of the code cuts short is a placeholder as well. -/
example : instructionsAgree [0x61, 0x2A] [0x61, 0x00] = true := by decide +kernel

end Provenance.Code
