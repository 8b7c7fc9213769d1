import Provenance.Proofs.Execution.Lines
import Provenance.Proofs.Execution.Message

/-!
What is received from a stream on which more arrives. A line is cut at its end or
where the limit is exceeded, so it is the same however much has arrived behind it:
once something has been received, more bytes and the end of the stream do not change
it.
-/

namespace Provenance.Execution

open Bytes (ofChars ofText)

/-! Cutting a line -/

theorem cutLine_append {count : Nat} {bytes : Bytes} (h : IsCut count (cutLine count bytes).1)
    (more : Bytes) :
    cutLine count (bytes ++ more) =
      ((cutLine count bytes).1, (cutLine count bytes).2 ++ more) := by
  induction count generalizing bytes with
  | zero => rfl
  | succ count ih =>
    cases bytes with
    | nil =>
      rcases h with hend | hcount
      · cases hend
      · exact absurd hcount (by simp [cutLine])
    | cons byte bytes =>
      by_cases hend : byte = 10
      · simp only [List.cons_append, cutLine, if_pos hend]
      · have hcut : IsCut count (cutLine count bytes).1 := by
          rw [cutLine, if_neg hend] at h
          rcases h with hline | hcount
          · refine .inl ?_
            cases hbytes : (cutLine count bytes).1 with
            | nil =>
              simp only [hbytes, endsLine, List.getLast?_singleton, Option.some.injEq,
                decide_eq_true_eq] at hline
              exact absurd hline hend
            | cons next line =>
              simp only [hbytes] at hline
              exact hline
          · exact .inr (by simpa using hcount)
        simp only [List.cons_append, cutLine, if_neg hend, ih hcut]

/-! Streams on which more arrives -/

namespace Stream

/-- The second stream is the first one, later: more may have arrived on it and its
end may have come, unless it had come before. -/
def IsBefore (s s' : Stream) : Prop := s = s' ∨ s.closed = false ∧ s.arrived <+: s'.arrived

theorem isBefore_refl (s : Stream) : s.IsBefore s := .inl rfl

/-- A line that was there is there later. -/
theorem line?_later {s s' rest : Stream} {count : Nat} {line : Bytes} (h : s.IsBefore s')
    (hline : s.line? count = some (line, rest)) :
    ∃ rest', s'.line? count = some (line, rest') ∧ rest.IsBefore rest' := by
  rcases h with rfl | ⟨hopen, more, hmore⟩
  · exact ⟨rest, hline, isBefore_refl rest⟩
  · obtain ⟨hcut, hbytes, hclosed⟩ := line?_eq_some_iff.mp hline
    have hcut : IsCut count line := hcut.resolve_left (by simp [hopen])
    have hlater : cutLine count (s.arrived ++ more) = (line, rest.arrived ++ more) := by
      rw [cutLine_append (by rwa [hbytes]), hbytes]
    rw [hmore] at hlater
    exact ⟨⟨rest.arrived ++ more, s'.closed⟩, line?_eq_some_iff.mpr ⟨.inr hcut, hlater, rfl⟩,
      .inr ⟨hclosed.trans hopen, List.prefix_append _ _⟩⟩

end Stream

inductive Incoming.Later {μ : Type} : Incoming μ → Incoming μ → Prop where
  | message (message : μ) {rest rest' : Stream} (h : rest.IsBefore rest') :
      Later (.message message rest) (.message message rest')
  | ended : Later .ended .ended
  | failed (cause : Fault) : Later (.failed cause) (.failed cause)
  | nothing (incoming : Incoming μ) : Later .nothing incoming

variable {μ : Type} {decode : Shape.Decoder μ} {limit : Nat}

/-- What has been received stays. -/
theorem Stream.receive_later {s s' : Stream} (decode : Shape.Decoder μ) (limit : Nat)
    (h : s.IsBefore s') :
    (s.receive decode limit).Later (s'.receive decode limit) := by
  unfold Stream.receive
  cases asked limit with
  | error cause => exact .failed cause
  | ok count =>
    dsimp only
    cases hline : s.line? count with
    | none => exact .nothing _
    | some cut =>
      obtain ⟨line, rest⟩ := cut
      obtain ⟨rest', hline', hrest⟩ := Stream.line?_later h hline
      rw [hline']
      dsimp only
      split
      · exact .ended
      split
      · exact .failed _
      split
      · exact .failed _
      split
      · exact .message _ hrest
      · exact .failed _

/-- A message takes a line within the limit off the stream, or all of it. -/
theorem Stream.receive_eq_message {s rest : Stream} {message : μ} (hlimit : limit < 2 ^ 64 - 1)
    (h : s.receive decode limit = .message message rest) :
    ∃ line, line ≠ [] ∧ s.arrived = line ++ rest.arrived ∧ rest.closed = s.closed ∧
      (endsLine line ∨ rest.arrived = []) := by
  obtain ⟨line, hsplits, hcarries⟩ := (receive_eq_message_iff hlimit).mp h
  exact ⟨line, hcarries.ne_nil, hsplits.arrived, hsplits.closed, hsplits.ends.imp_right And.right⟩

/-- Of a single line, or a front of it, a message leaves nothing. -/
theorem Stream.receive_single {s rest : Stream} {message : μ} (hlimit : limit < 2 ^ 64 - 1)
    {front : Bytes} (hnewline : 10 ∉ front) (harrived : s.arrived <+: front ++ [10])
    (h : s.receive decode limit = .message message rest) : rest = ⟨[], s.closed⟩ := by
  obtain ⟨line, -, hbytes, hclosed, hends⟩ := Stream.receive_eq_message hlimit h
  suffices rest.arrived = [] by rw [← this, ← hclosed]
  rcases hends with hends | hrest
  · by_contra hne
    obtain ⟨body, rfl⟩ := List.getLast?_eq_some_iff.mp (of_decide_eq_true hends)
    have hlength := harrived.length_le
    have hpos := List.length_pos_iff.mpr hne
    rw [hbytes] at hlength
    have hline : body ++ [10] <+: front ++ [10] :=
      (List.prefix_append _ _).trans (hbytes ▸ harrived)
    have hfront : body ++ [10] <+: front :=
      List.prefix_of_prefix_length_le hline (List.prefix_append _ _) (by
        simp only [List.length_append, List.length_singleton] at hlength ⊢
        omega)
    exact hnewline (hfront.subset (by simp))
  · exact hrest

/-- Before anything has come there is nothing to receive. -/
theorem Stream.receive_start (hlimit : limit < 2 ^ 64 - 1) :
    (⟨[], false⟩ : Stream).receive decode limit = .nothing :=
  (receive_eq_nothing_iff hlimit).mpr ⟨rfl, List.not_mem_nil, Nat.zero_le limit⟩

/-- Nothing comes behind the end of a stream. -/
theorem Stream.receive_end (hlimit : limit < 2 ^ 64 - 1) :
    (⟨[], true⟩ : Stream).receive decode limit = .ended := by
  rw [Stream.receive, asked_eq hlimit]
  rfl

structure IsLine (bytes : Bytes) : Prop where
  ends : endsLine bytes
  newline : 10 ∉ bytes.dropLast

theorem IsLine.ne_nil {bytes : Bytes} (h : IsLine bytes) : bytes ≠ [] := by
  rintro rfl
  cases h.ends

theorem isLine_lineOf (json : Json) : IsLine (lineOf json) := by
  rw [lineOf_eq]
  constructor
  · simp [endsLine]
  · rw [List.dropLast_concat]
    exact newline_notMem_text json

/-- A message whose line a reader takes: without floats, not nested too deeply, and
within the limit of the reader. -/
structure IsReadable (json : Json) (limit : Nat) : Prop where
  isWhole : json.IsWhole
  depth_le : json.depth ≤ Json.maxDepth
  length_le : (lineOf json).length ≤ limit

/-- A line is received as the message it was written for, whatever follows it. -/
theorem Stream.receive_lineOf {members : List (String × Json)} {message : μ}
    (hdecode : decode (.object members) = .ok message) (h : IsReadable (.object members) limit)
    (hlimit : limit < 2 ^ 64 - 1) (more : Bytes) (closed : Bool) :
    (⟨lineOf (.object members) ++ more, closed⟩ : Stream).receive decode limit =
      .message message ⟨more, closed⟩ := by
  have hline := isLine_lineOf (.object members)
  have htext : Utf8.decode? (lineOf (.object members)) =
      some ((Json.object members).compact ++ "\n") := Utf8.decode_ofText _
  have hparse := parseMessage_line hdecode h.isWhole h.depth_le
  refine (receive_eq_message_iff hlimit).mpr ⟨lineOf (.object members), ?_, ?_⟩
  · exact ⟨rfl, rfl, hline.newline, .inl hline.ends⟩
  · exact ⟨hline.ne_nil, h.length_le, _, htext, hparse⟩

theorem Stream.receive_parentMessage {s : Stream} (message : ParentMessage) {more : Bytes}
    (hproper : message.IsProper) (h : IsReadable message.toJson limit) (hlimit : limit < 2 ^ 64 - 1)
    (harrived : s.arrived = lineOf message.toJson ++ more) :
    s.receive ParentMessage.decode limit = .message message ⟨more, s.closed⟩ := by
  have hdecode := ParentMessage.decode_toJson hproper
  obtain ⟨arrived, closed⟩ := s
  obtain rfl : arrived = _ := harrived
  cases message with
  | input id compiler payload => exact Stream.receive_lineOf hdecode h hlimit more closed
  | shutdown => exact Stream.receive_lineOf hdecode h hlimit more closed

theorem Stream.receive_workerMessage {s : Stream} (message : WorkerMessage) {more : Bytes}
    (hproper : message.IsProper) (h : IsReadable message.toJson limit) (hlimit : limit < 2 ^ 64 - 1)
    (harrived : s.arrived = lineOf message.toJson ++ more) :
    s.receive WorkerMessage.decode limit = .message message ⟨more, s.closed⟩ := by
  have hdecode := WorkerMessage.decode_toJson hproper
  obtain ⟨arrived, closed⟩ := s
  obtain rfl : arrived = _ := harrived
  cases message with
  | ready => exact Stream.receive_lineOf hdecode h hlimit more closed
  | output id result => exact Stream.receive_lineOf hdecode h hlimit more closed

end Provenance.Execution
