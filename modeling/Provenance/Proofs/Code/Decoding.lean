import Mathlib.Data.List.Chain
import Provenance.Code.Comparison

/-!
Instructions as a partition of the code. They take all of its bytes, each begins where the
one before it ends, and only the last may be cut short, by the end of the code. Nothing
else has these properties, and a reader that goes from place to place in the code reads
just these instructions. Code that ends between two instructions is decoded apart from
what follows it.
-/

namespace Provenance.Code

theorem decodeFrom_nil (offset : Nat) : decodeFrom offset [] = [] := by rw [decodeFrom]

theorem decodeFrom_cons (offset : Nat) (opcode : UInt8) (rest : Bytes) :
    decodeFrom offset (opcode :: rest) =
      ⟨offset, opcode, rest.take (operandWidth opcode)⟩ ::
        decodeFrom (offset + 1 + (rest.take (operandWidth opcode)).length)
          (rest.drop (operandWidth opcode)) := by
  rw [decodeFrom]

/-- The bytes of its instructions make up the code. -/
theorem flatMap_bytes_decodeFrom (offset : Nat) (code : Bytes) :
    (decodeFrom offset code).flatMap Instruction.bytes = code := by
  fun_induction decodeFrom offset code with
  | case1 => rfl
  | case2 offset opcode rest operand ih =>
    simp only [List.flatMap_cons, Instruction.bytes, ih, List.cons_append]
    exact congrArg (opcode :: ·) (List.take_append_drop _ _)

theorem flatMap_bytes_decode (code : Bytes) : (decode code).flatMap Instruction.bytes = code :=
  flatMap_bytes_decodeFrom 0 code

/-! ### The partition -/

def Instruction.IsWhole (i : Instruction) : Prop := i.operand.length = operandWidth i.opcode

structure Partition (offset : Nat) (code : Bytes) (is : List Instruction) : Prop where
  bytes : is.flatMap Instruction.bytes = code
  first : ∀ i ∈ is.head?, i.offset = offset
  next : is.IsChain fun i j => j.offset = i.offset + 1 + i.operand.length
  whole : ∀ i ∈ is.dropLast, i.IsWhole
  last : ∀ i ∈ is.getLast?, i.operand.length ≤ operandWidth i.opcode

namespace Partition

variable {offset : Nat} {code : Bytes} {i : Instruction} {is : List Instruction}

theorem nil_iff : Partition offset code [] ↔ code = [] :=
  ⟨fun h => h.bytes.symm, fun h => ⟨h.symm, nofun, .nil, nofun, nofun⟩⟩

/-- The first instruction is as long as it is announced, unless it is the last; what it
leaves of the code is cut up by the others. -/
theorem cons_iff : Partition offset code (i :: is) ↔
    i.offset = offset ∧ i.operand.length ≤ operandWidth i.opcode ∧ (is ≠ [] → i.IsWhole) ∧
      ∃ rest, code = i.bytes ++ rest ∧ Partition (offset + 1 + i.operand.length) rest is := by
  cases is with
  | nil =>
    constructor
    · intro h
      exact ⟨h.first i rfl, h.last i rfl, nofun, [], h.bytes.symm, nil_iff.2 rfl⟩
    · rintro ⟨hoffset, hwidth, -, rest, rfl, hrest⟩
      exact ⟨by rw [nil_iff.1 hrest]; rfl, fun _ hi => Option.some.inj hi ▸ hoffset, .singleton i,
        nofun, fun _ hi => Option.some.inj hi ▸ hwidth⟩
  | cons j js =>
    constructor
    · intro h
      obtain ⟨hnext, hchain⟩ := List.isChain_cons_cons.1 h.next
      have hoffset := h.first i rfl
      have hwhole := h.whole i List.mem_cons_self
      refine ⟨hoffset, Nat.le_of_eq hwhole, fun _ => hwhole, _, h.bytes.symm, rfl, ?_, hchain,
        fun k hk => h.whole k (List.mem_cons_of_mem i hk), h.last⟩
      intro k hk
      rw [← Option.some.inj hk, hnext, hoffset]
    · rintro ⟨hoffset, -, hwhole, rest, rfl, hrest⟩
      refine ⟨by rw [List.flatMap_cons, hrest.bytes], fun _ hk => Option.some.inj hk ▸ hoffset,
        .cons_cons ?_ hrest.next, ?_, hrest.last⟩
      · rw [hrest.first j rfl, hoffset]
      · intro k hk
        rcases List.mem_cons.1 hk with rfl | hk
        · exact hwhole nofun
        · exact hrest.whole k hk

end Partition

/-- By the recursion of the decoder. -/
theorem partition_decodeFrom (offset : Nat) (code : Bytes) :
    Partition offset code (decodeFrom offset code) := by
  induction offset, code using decodeFrom.induct with
  | case1 offset =>
    rw [decodeFrom_nil]
    exact Partition.nil_iff.2 rfl
  | case2 offset opcode rest operand ih =>
    rw [decodeFrom_cons]
    refine Partition.cons_iff.2 ⟨rfl, List.length_take_le _ _, ?_, _, ?_, ih⟩
    · intro hmore
      refine List.length_take_of_le (Nat.le_of_lt (Nat.lt_of_not_le fun hend => hmore ?_))
      rw [List.drop_eq_nil_of_le hend, decodeFrom_nil]
    · rw [Instruction.bytes, List.cons_append, List.take_append_drop]

/-- Code is cut up in one way only. -/
theorem Partition.eq_decodeFrom {offset : Nat} {code : Bytes} {is : List Instruction}
    (h : Partition offset code is) : is = decodeFrom offset code := by
  induction is generalizing offset code with
  | nil => rw [nil_iff.1 h, decodeFrom_nil]
  | cons i is ih =>
    obtain ⟨rfl, hwidth, hwhole, rest, rfl, hrest⟩ := cons_iff.1 h
    have hcut : (i.operand ++ rest).take (operandWidth i.opcode) = i.operand ∧
        (i.operand ++ rest).drop (operandWidth i.opcode) = rest := by
      by_cases hmore : is = []
      · rw [hmore, nil_iff] at hrest
        rw [hrest, List.append_nil]
        exact ⟨List.take_of_length_le hwidth, List.drop_eq_nil_of_le hwidth⟩
      · exact ⟨List.take_left' (hwhole hmore), List.drop_left' (hwhole hmore)⟩
    rw [Instruction.bytes, List.cons_append, decodeFrom_cons, hcut.1, hcut.2, ← ih hrest]

theorem partition_iff {offset : Nat} {code : Bytes} {is : List Instruction} :
    Partition offset code is ↔ is = decodeFrom offset code :=
  ⟨Partition.eq_decodeFrom, fun h => h ▸ partition_decodeFrom offset code⟩

/-! ### Reading from place to place -/

/-- What is read of the code from a position on, by a reader that takes the opcode there and
the bytes behind it that are announced, no more than there are, and goes on behind them. -/
inductive Reads (code : Bytes) : Nat → List Instruction → Prop where
  | finish {position : Nat} : code[position]? = none → Reads code position []
  | step {position stop : Nat} {opcode : UInt8} {is : List Instruction} :
      code[position]? = some opcode → stop = min (position + 1 + operandWidth opcode) code.length →
      Reads code stop is →
      Reads code position (⟨position, opcode, code.extract (position + 1) stop⟩ :: is)

/-- At a position inside the code the decoder does what the reader does. -/
theorem decodeFrom_drop {code : Bytes} {position stop : Nat} {opcode : UInt8}
    (hopcode : code[position]? = some opcode)
    (hstop : stop = min (position + 1 + operandWidth opcode) code.length) :
    decodeFrom position (code.drop position) =
      ⟨position, opcode, code.extract (position + 1) stop⟩ :: decodeFrom stop (code.drop stop) := by
  obtain ⟨hposition, hget⟩ := List.getElem?_eq_some_iff.1 hopcode
  have hoperand : (code.drop (position + 1)).take (operandWidth opcode) =
      code.extract (position + 1) stop := by
    rw [List.extract_eq_take_drop, List.take_eq_take_iff, List.length_drop]
    omega
  have hnext : position + 1 + (code.extract (position + 1) stop).length = stop := by
    rw [← hoperand, List.length_take, List.length_drop]
    omega
  have hrest : (code.drop (position + 1)).drop (operandWidth opcode) = code.drop stop := by
    rw [List.drop_drop]
    by_cases hfits : position + 1 + operandWidth opcode ≤ code.length
    · rw [hstop, Nat.min_eq_left hfits]
    · rw [List.drop_eq_nil_of_le (by omega), List.drop_eq_nil_of_le (by omega)]
  rw [List.drop_eq_getElem_cons hposition, hget, decodeFrom_cons, hoperand, hnext, hrest]

theorem Reads.eq_decodeFrom {code : Bytes} {position : Nat} {is : List Instruction}
    (h : Reads code position is) : is = decodeFrom position (code.drop position) := by
  induction h with
  | finish hend => rw [List.drop_eq_nil_of_le (List.getElem?_eq_none_iff.1 hend), decodeFrom_nil]
  | step hopcode hstop _ ih => rw [decodeFrom_drop hopcode hstop, ih]

/-- Every step takes a byte at least, so the reader comes to the end. -/
theorem reads_decodeFrom (code : Bytes) (position : Nat) :
    Reads code position (decodeFrom position (code.drop position)) := by
  cases hopcode : code[position]? with
  | none =>
    rw [List.drop_eq_nil_of_le (List.getElem?_eq_none_iff.1 hopcode), decodeFrom_nil]
    exact .finish hopcode
  | some opcode =>
    have hposition := (List.getElem?_eq_some_iff.1 hopcode).1
    rw [decodeFrom_drop hopcode rfl]
    exact .step hopcode rfl (reads_decodeFrom code _)
termination_by code.length - position
decreasing_by omega

/-- The last instruction has all that is left. -/
theorem Reads.operand_last {code : Bytes} {position : Nat} {is : List Instruction}
    (h : Reads code position is) : ∀ i ∈ is.getLast?, i.operand = code.drop (i.offset + 1) := by
  induction h with
  | finish => exact nofun
  | @step position stop opcode is _ _ hrest ih =>
    cases hrest with
    | finish hend =>
      have hlength := List.getElem?_eq_none_iff.1 hend
      have hall : code.extract (position + 1) stop = code.drop (position + 1) := by
        rw [List.extract_eq_take_drop]
        exact List.take_of_length_le (by rw [List.length_drop]; omega)
      rintro i ⟨⟩
      exact hall
    | step => exact ih

/-! ### Code in front of other code -/

/-- The last instruction has its whole operand, so that what follows it is not taken for a
part of it. -/
def EndsWhole (is : List Instruction) : Prop := ∀ i ∈ is.getLast?, i.IsWhole

theorem endsWhole_cons_iff {i : Instruction} {is : List Instruction} (h : i.IsWhole) :
    EndsWhole (i :: is) ↔ EndsWhole is := by
  cases is with
  | nil => exact ⟨fun _ => nofun, fun _ _ hi => Option.some.inj hi ▸ h⟩
  | cons j js => rfl

/-- Code that stands further back has its instructions further back. -/
theorem decodeFrom_add (n offset : Nat) (code : Bytes) :
    decodeFrom (offset + n) code = (decodeFrom offset code).map (Instruction.shift n) := by
  induction offset, code using decodeFrom.induct with
  | case1 offset => rw [decodeFrom_nil, decodeFrom_nil, List.map_nil]
  | case2 offset opcode rest operand ih =>
    have hplace : offset + n + 1 + operand.length = offset + 1 + operand.length + n := by omega
    rw [decodeFrom_cons, decodeFrom_cons, List.map_cons, ← ih, ← hplace]
    rfl

/-- By the recursion of the decoder on the code in front. Only its last instruction can see
what follows, and does so if the code in front is too short for it. -/
theorem decodeFrom_append_iff (offset : Nat) (front back : Bytes) :
    decodeFrom offset (front ++ back) =
        decodeFrom offset front ++ decodeFrom (offset + front.length) back ↔
      EndsWhole (decodeFrom offset front) ∨ back = [] := by
  induction offset, front using decodeFrom.induct with
  | case1 offset =>
    rw [decodeFrom_nil]
    exact iff_of_true rfl (.inl nofun)
  | case2 offset opcode rest operand ih =>
    rw [List.cons_append, decodeFrom_cons, decodeFrom_cons, List.cons_append]
    by_cases hfits : operandWidth opcode ≤ rest.length
    · have hwidth : operand.length = operandWidth opcode := List.length_take_of_le hfits
      have hwhole : Instruction.IsWhole ⟨offset, opcode, operand⟩ := hwidth
      have hend : offset + (opcode :: rest).length = offset + 1 + operand.length +
          (rest.drop (operandWidth opcode)).length := by
        rw [List.length_cons, List.length_drop, hwidth]
        omega
      rw [List.take_append_of_le_length hfits, List.drop_append_of_le_length hfits, hend,
        List.cons_inj_right, endsWhole_cons_iff hwhole]
      exact ih
    · have hshort := Nat.lt_of_not_le hfits
      have hwhole : rest.take (operandWidth opcode) = rest :=
        List.take_of_length_le (Nat.le_of_lt hshort)
      have hcut : ¬ EndsWhole [(⟨offset, opcode, rest⟩ : Instruction)] :=
        fun h => absurd (h _ rfl) (Nat.ne_of_lt hshort)
      rw [hwhole, List.drop_eq_nil_of_le (Nat.le_of_lt hshort), decodeFrom_nil, List.nil_append,
        or_iff_right hcut]
      constructor
      · intro h
        have htaken := congrArg (fun i : Instruction => i.operand.length) (List.cons.inj h).1
        simp only [List.length_take, List.length_append] at htaken
        exact List.length_eq_zero_iff.1 (by omega)
      · rintro rfl
        rw [List.append_nil, hwhole, List.drop_eq_nil_of_le (Nat.le_of_lt hshort), decodeFrom_nil,
          decodeFrom_nil]

/-- Code is decoded in front of other code as it is alone, and the other code as if it
stood alone further back, exactly if nothing is cut short in front or nothing follows. -/
theorem decode_append_iff (front back : Bytes) :
    decode (front ++ back) =
        decode front ++ (decode back).map (Instruction.shift front.length) ↔
      EndsWhole (decode front) ∨ back = [] := by
  rw [decode, decode, decode, ← decodeFrom_add]
  exact decodeFrom_append_iff 0 front back

/-- Decoding loses nothing and cuts code in the one way there is. The instructions that are
read from place to place, up to the end, are those into which the code can be cut: they make
up its bytes, each begins where the one before it ends, all have the operands that their
opcodes announce, but for the last, which may have less, and has all the bytes that are left.
Code is decoded apart from what follows it exactly if its last operand is not cut short. -/
theorem decode_is_partition :
    (∀ code is, Reads code 0 is ↔ is = decode code) ∧
      (∀ code is, Partition 0 code is ↔ is = decode code) ∧
      (∀ code, ∀ i ∈ (decode code).getLast?, i.operand = code.drop (i.offset + 1)) ∧
      ∀ front back, decode (front ++ back) =
          decode front ++ (decode back).map (Instruction.shift front.length) ↔
        EndsWhole (decode front) ∨ back = [] := by
  refine ⟨fun code is => ⟨Reads.eq_decodeFrom, ?_⟩, fun code is => partition_iff,
    fun code => (reads_decodeFrom code 0).operand_last, decode_append_iff⟩
  rintro rfl
  exact reads_decodeFrom code 0

/-- Of the four bytes that a push announces one is there. In front of two more bytes it
takes both. -/
theorem decode_cut_push :
    (⟨2, 0x63, [0x01]⟩ : Instruction) ∈ (decode [0x60, 0x80, 0x63, 0x01]).getLast? ∧
      ([0x01] : Bytes) = [0x60, 0x80, 0x63, 0x01].drop (2 + 1) ∧
      decode ([0x60, 0x80, 0x63, 0x01] ++ [0x02, 0x00]) ≠
        decode [0x60, 0x80, 0x63, 0x01] ++ (decode [0x02, 0x00]).map (Instruction.shift 4) := by
  have hfront : decode [0x60, 0x80, 0x63, 0x01] = [⟨0, 0x60, [0x80]⟩, ⟨2, 0x63, [0x01]⟩] := by
    simp [decode, decodeFrom_cons, decodeFrom_nil, operandWidth, isPush]
  have hlast : (⟨2, 0x63, [0x01]⟩ : Instruction) ∈
      (decode [0x60, 0x80, 0x63, 0x01]).getLast? := by
    rw [hfront]
    rfl
  refine ⟨hlast, decode_is_partition.2.2.1 _ _ hlast, fun h => ?_⟩
  obtain hwhole | hnothing := (decode_is_partition.2.2.2 _ _).1 h
  · have hwidth : ([0x01] : Bytes).length = operandWidth 0x63 := hwhole _ hlast
    cases hwidth
  · cases hnothing

end Provenance.Code
