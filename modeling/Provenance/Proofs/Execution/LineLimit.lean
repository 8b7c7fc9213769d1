import Provenance.Proofs.Execution.Lines
import Provenance.Proofs.Json.Compact

/-!
The limit of a line. One byte more than the limit is asked for, and what has come is
read as a text before its length is looked at. So a line that exceeds the limit is
reported as such where the limit and one byte end a character, and otherwise as bytes
that are no text. A line within the limit is never refused for its length. Under the
greatest limit the sum overflows and no line is looked at.
-/

namespace Provenance.Execution

open Bytes (ofChars ofText)

def firstLine : Bytes → Bytes
  | [] => []
  | byte :: rest => if byte = 10 then [byte] else byte :: firstLine rest

theorem isPrefix_firstLine (bytes : Bytes) : firstLine bytes <+: bytes := by
  induction bytes with
  | nil => exact List.prefix_refl _
  | cons byte bytes ih =>
    rw [firstLine]
    split
    · exact ⟨bytes, rfl⟩
    · exact List.cons_prefix_cons.2 ⟨rfl, ih⟩

theorem firstLine_eq_nil_iff {bytes : Bytes} : firstLine bytes = [] ↔ bytes = [] := by
  cases bytes with
  | nil => simp [firstLine]
  | cons byte bytes =>
    rw [firstLine]
    split <;> simp

/-- What is cut off bytes is the first line of them, as far as it may be so long. -/
theorem cutLine_fst (count : Nat) (bytes : Bytes) :
    (cutLine count bytes).1 = (firstLine bytes).take count := by
  induction count generalizing bytes with
  | zero => rfl
  | succ count ih =>
    cases bytes with
    | nil => rfl
    | cons byte bytes =>
      rw [cutLine, firstLine]
      split
      · rw [List.take_succ_cons, List.take_nil]
      · exact congrArg (byte :: ·) (ih bytes)

/-- A line that is too long is cut where the bytes are. -/
theorem cutLine_of_le {count : Nat} {bytes : Bytes} (h : count ≤ (firstLine bytes).length) :
    (cutLine count bytes).1 = bytes.take count := by
  obtain ⟨behind, hbytes⟩ := isPrefix_firstLine bytes
  rw [cutLine_fst]
  conv_rhs => rw [← hbytes, List.take_append_of_le_length h]

theorem firstLine_append {front : Bytes} (h : 10 ∉ front) (bytes : Bytes) :
    firstLine (front ++ bytes) = front ++ firstLine bytes := by
  induction front with
  | nil => rfl
  | cons byte front ih =>
    obtain ⟨hbyte, hfront⟩ := not_or.1 (mt List.mem_cons.2 h)
    rw [List.cons_append, firstLine, if_neg (Ne.symm hbyte), ih hfront, List.cons_append]

/-- The first line of a text is a text. -/
theorem exists_firstLine_ofChars (chars : List Char) :
    ∃ front, firstLine (ofChars chars) = ofChars front := by
  induction chars with
  | nil => exact ⟨[], rfl⟩
  | cons c chars ih =>
    by_cases hc : c = '\n'
    · subst hc
      exact ⟨['\n'], rfl⟩
    · obtain ⟨front, hfront⟩ := ih
      have hplain : 10 ∉ ofChars [c] :=
        Json.newline_notMem_ofChars (by simpa using Ne.symm hc)
      rw [Bytes.ofChars_cons, Bytes.ofChars_nil, List.append_nil] at hplain
      refine ⟨c :: front, ?_⟩
      rw [Bytes.ofChars_cons, firstLine_append hplain, hfront, Bytes.ofChars_cons]

theorem isSome_decode?_firstLine (text : String) :
    (Utf8.decode? (firstLine (ofText text))).isSome := by
  obtain ⟨front, hfront⟩ := exists_firstLine_ofChars text.toList
  rw [Bytes.ofText_eq, hfront, ← Bytes.ofText_ofList, Utf8.decode_ofText]
  rfl

def notText : Fault := .io "stream did not contain valid UTF-8"

namespace Stream

variable {μ : Type} {decode : Shape.Decoder μ} {limit : Nat} {s : Stream}

/-- A line that is longer than it may be is received as soon as that is seen. -/
theorem receive_of_long (hlimit : limit + 1 < 2 ^ 64)
    (hlong : limit < (firstLine s.arrived).length) :
    s.receive decode limit = .failed
      (if (Utf8.decode? (s.arrived.take (limit + 1))).isSome then .tooLarge limit
        else notText) := by
  have hline := cutLine_of_le (Nat.succ_le_of_lt hlong)
  have hlength : (s.arrived.take (limit + 1)).length = limit + 1 := by
    have := (isPrefix_firstLine s.arrived).length_le
    rw [List.length_take]
    omega
  have hempty : (s.arrived.take (limit + 1)).isEmpty = false :=
    List.isEmpty_eq_false_iff.2 (List.ne_nil_of_length_eq_add_one hlength)
  have hcut : s.line? (limit + 1) = some (s.arrived.take (limit + 1),
      { s with arrived := (cutLine (limit + 1) s.arrived).2 }) := by
    rw [line?]
    simp [hline, hlength]
  rw [receive, asked_eq (by omega)]
  simp only [hcut, hempty, Bool.false_eq_true, if_false]
  cases Utf8.decode? (s.arrived.take (limit + 1)) with
  | none => rfl
  | some text => simp [hlength]

/-- A text that is refused as a message is malformed. -/
theorem parseMessage_eq_error {text : String} {cause : Fault}
    (h : parseMessage decode text = .error cause) : cause = .breach .malformed := by
  unfold parseMessage at h
  dsimp only at h
  split at h
  · exact (Except.error.inj h).symm
  · rename_i json _
    cases hjson : decode json with
    | error mismatch =>
      rw [hjson] at h
      exact (Except.error.inj h).symm
    | ok message =>
      rw [hjson] at h
      cases h

/-- A line within the limit is refused only as no message. -/
theorem cause_of_short (hlimit : limit + 1 < 2 ^ 64) (hshort : (firstLine s.arrived).length ≤ limit)
    (htext : (Utf8.decode? (firstLine s.arrived)).isSome) {cause : Fault}
    (h : s.receive decode limit = .failed cause) : cause = .breach .malformed := by
  have hcut : (cutLine (limit + 1) s.arrived).1 = firstLine s.arrived := by
    rw [cutLine_fst, List.take_of_length_le (by omega)]
  obtain ⟨text, htext⟩ := Option.isSome_iff_exists.1 htext
  rw [receive, asked_eq (by omega)] at h
  dsimp only at h
  split at h
  · cases h
  rename_i line rest hline
  obtain ⟨-, hbytes, -⟩ := line?_eq_some_iff.1 hline
  obtain rfl : firstLine s.arrived = line := by rw [← hcut, hbytes]
  split at h
  · cases h
  rw [htext] at h
  dsimp only at h
  rw [if_neg (Nat.not_lt.2 hshort)] at h
  split at h
  · cases h
  · rename_i hparse
    cases h
    exact parseMessage_eq_error hparse

/-- Under the greatest limit there is no number of bytes to ask for. -/
theorem receive_greatest (hlimit : limit + 1 = 2 ^ 64) :
    s.receive decode limit = .failed .overflow := by
  rw [receive, asked_greatest hlimit]

/-- A stream is taken for one that has ended if nothing is left on it. -/
theorem receive_eq_ended_iff (hlimit : limit < 2 ^ 64 - 1) :
    s.receive decode limit = .ended ↔ s.closed = true ∧ s.arrived = [] := by
  constructor
  · intro h
    obtain ⟨rest, hline⟩ : ∃ rest, s.line? (limit + 1) = some ([], rest) := by
      rw [receive, asked_eq hlimit] at h
      dsimp only at h
      split at h
      · cases h
      rename_i line rest hline
      split at h
      · rename_i hempty
        exact ⟨rest, by rw [hline, List.isEmpty_iff.1 hempty]⟩
      · repeat' split at h
        all_goals cases h
    obtain ⟨hcut, hbytes, -⟩ := line?_eq_some_iff.1 hline
    have hfirst := congrArg Prod.fst hbytes
    rw [cutLine_fst, List.take_eq_nil_iff] at hfirst
    have harrived := firstLine_eq_nil_iff.1 (hfirst.resolve_left (Nat.succ_ne_zero limit))
    refine ⟨hcut.resolve_right ?_, harrived⟩
    rintro (hend | hlong)
    · cases hend
    · exact absurd hlong (by simp)
  · rintro ⟨hclosed, harrived⟩
    obtain ⟨arrived, closed⟩ := s
    obtain rfl : closed = true := hclosed
    obtain rfl : arrived = [] := harrived
    rw [receive, asked_eq hlimit]
    rfl

end Stream

variable {μ : Type} {limit : Nat}

/-- Lines that are too long are reported as such where the limit and one byte end a
character, and otherwise as bytes that are no text; a line within the limit is refused
only as no message; and the end of a stream is told from its lines. So it is under every
limit but the greatest one, under which the program breaks off whatever has come. -/
theorem overlong_reported_iff (hlimit : limit < 2 ^ 64) (decode : Shape.Decoder μ) (text : String)
    (closed : Bool) :
    let s : Stream := ⟨ofText text, closed⟩
    let length := (firstLine (ofText text)).length
    (s.receive decode limit = .failed (.tooLarge limit) ↔
      limit < length ∧ limit + 1 < 2 ^ 64 ∧ (⟨limit + 1⟩ : String.Pos.Raw).IsValid text) ∧
    (limit < length → limit + 1 < 2 ^ 64 → ¬ (⟨limit + 1⟩ : String.Pos.Raw).IsValid text →
      s.receive decode limit = .failed notText) ∧
    (length ≤ limit → ∀ cause, s.receive decode limit = .failed cause →
      cause = .breach .malformed ∨ limit + 1 = 2 ^ 64 ∧ cause = .overflow) ∧
    (s.receive decode limit = .ended ↔ limit + 1 < 2 ^ 64 ∧ closed = true ∧ text = "") ∧
    (limit + 1 = 2 ^ 64 → s.receive decode limit = .failed .overflow) := by
  intro s length
  by_cases hlast : limit + 1 = 2 ^ 64
  · rw [s.receive_greatest hlast]
    refine ⟨iff_of_false nofun fun h => ?_, fun _ hword => ?_, fun _ cause h => ?_,
      iff_of_false nofun fun h => ?_, fun _ => rfl⟩
    · omega
    · omega
    · cases h
      exact .inr ⟨hlast, rfl⟩
    · omega
  have hword : limit + 1 < 2 ^ 64 := by omega
  have hcut (hlong : limit < length) :
      (Utf8.decode? (s.arrived.take (limit + 1))).isSome ↔
        (⟨limit + 1⟩ : String.Pos.Raw).IsValid text := by
    have hle := (isPrefix_firstLine (ofText text)).length_le
    exact Utf8.isSome_decode?_take_iff (Nat.le_trans (Nat.succ_le_of_lt hlong) hle)
  have hshort (hfits : length ≤ limit) (cause : Fault)
      (h : s.receive decode limit = .failed cause) : cause = .breach .malformed :=
    Stream.cause_of_short hword hfits (isSome_decode?_firstLine text) h
  refine ⟨⟨fun h => ?_, fun ⟨hlong, _, hvalid⟩ => ?_⟩, fun hlong _ hvalid => ?_,
    fun hfits cause h => .inl (hshort hfits cause h), ?_, fun hgreatest => absurd hgreatest hlast⟩
  · have hlong : limit < length := by
      by_contra hfits
      cases hshort (Nat.not_lt.1 hfits) _ h
    refine ⟨hlong, hword, (hcut hlong).1 ?_⟩
    rw [Stream.receive_of_long hword hlong] at h
    by_contra hnone
    rw [if_neg hnone] at h
    cases h
  · rw [Stream.receive_of_long hword hlong, if_pos ((hcut hlong).2 hvalid)]
  · rw [Stream.receive_of_long hword hlong, if_neg (mt (hcut hlong).1 hvalid)]
  · rw [s.receive_eq_ended_iff (by omega), and_iff_right hword]
    have hempty : s.arrived = [] ↔ text = "" := by
      rw [show s.arrived = ofText text from rfl, ← List.length_eq_zero_iff, Bytes.length_ofText,
        String.utf8ByteSize_eq_zero_iff]
    rw [hempty]

/-- A limit that cuts the line behind a character. -/
theorem overlong_reported_five :
    4 < (firstLine (ofText "ab€\n")).length ∧
      (⟨ofText "ab€\n", true⟩ : Stream).receive WorkerMessage.decode 4 = .failed (.tooLarge 4) := by
  have hlong : 4 < (firstLine (ofText "ab€\n")).length := by decide
  have hvalid : (⟨4 + 1⟩ : String.Pos.Raw).IsValid "ab€\n" := by decide
  obtain ⟨hreported, -⟩ :=
    overlong_reported_iff (show 4 < 2 ^ 64 by decide) WorkerMessage.decode "ab€\n" true
  exact ⟨hlong, hreported.2 ⟨hlong, by decide, hvalid⟩⟩

/-- A limit that cuts the line inside a character. -/
theorem cut_character_unreported :
    2 < (firstLine (ofText "ab€\n")).length ∧
      (⟨ofText "ab€\n", true⟩ : Stream).receive WorkerMessage.decode 2 ≠ .failed (.tooLarge 2) := by
  have hlong : 2 < (firstLine (ofText "ab€\n")).length := by decide
  have hvalid : ¬ (⟨2 + 1⟩ : String.Pos.Raw).IsValid "ab€\n" := by decide
  have hsize : 2 + 1 ≤ "ab€\n".utf8ByteSize := by decide
  have hnone := mt (Utf8.isSome_decode?_take_iff hsize).1 hvalid
  refine ⟨hlong, ?_⟩
  rw [Stream.receive_of_long (by decide) hlong, if_neg hnone]
  exact nofun

end Provenance.Execution
