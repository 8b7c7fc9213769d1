import Provenance.Execution.Stream

/-!
What is received, said by the lines of a stream. A line is what stands up to its end
or, on a stream that has ended, all that is left. A message is received exactly if
the first line is one, and nothing is received exactly if neither a line nor more
than may come has arrived.
-/

namespace Provenance.Execution

variable {μ : Type} {decode : Shape.Decoder μ} {limit : Nat} {message : μ}

/-! Cutting a line -/

theorem cutLine_append_eq (count : Nat) (bytes : Bytes) :
    (cutLine count bytes).1 ++ (cutLine count bytes).2 = bytes := by
  induction count generalizing bytes with
  | zero => rfl
  | succ count ih =>
    cases bytes with
    | nil => rfl
    | cons byte bytes =>
      rw [cutLine]
      split
      · rfl
      · exact congrArg (byte :: ·) (ih bytes)

theorem endsLine_cons {byte : UInt8} {bytes : Bytes} (h : endsLine bytes) :
    endsLine (byte :: bytes) := by
  cases bytes with
  | nil => cases h
  | cons next bytes => exact h

/-- A line that is shorter than it may be ends, or nothing stands behind it. -/
theorem cutLine_ends (count : Nat) (bytes : Bytes) (h : (cutLine count bytes).1.length < count) :
    endsLine (cutLine count bytes).1 ∨ (cutLine count bytes).2 = [] := by
  induction count generalizing bytes with
  | zero => omega
  | succ count ih =>
    cases bytes with
    | nil => exact .inr rfl
    | cons byte bytes =>
      by_cases hend : byte = 10
      · rw [cutLine, if_pos hend, hend]
        exact .inl rfl
      · rw [cutLine, if_neg hend] at h ⊢
        rcases ih bytes (by simpa using h) with hline | hrest
        · exact .inl (endsLine_cons hline)
        · exact .inr hrest

def IsCut (count : Nat) (line : Bytes) : Prop := endsLine line ∨ count ≤ line.length

/-- A line within the limit is cut behind its end. -/
theorem cutLine_line {count : Nat} {line : Bytes} (hnewline : 10 ∉ line)
    (hcount : line.length < count) (rest : Bytes) :
    cutLine count (line ++ 10 :: rest) = (line ++ [10], rest) := by
  induction line generalizing count with
  | nil =>
    obtain ⟨count, rfl⟩ := Nat.exists_eq_add_of_lt hcount
    simp [cutLine]
  | cons byte line ih =>
    obtain ⟨hbyte, hline⟩ := not_or.mp (fun h => hnewline (List.mem_cons.mpr h))
    cases count with
    | zero => simp at hcount
    | succ count =>
      rw [List.cons_append, cutLine, if_neg (Ne.symm hbyte), ih hline (by simpa using hcount)]
      rfl

theorem asked_eq (hlimit : limit < 2 ^ 64 - 1) : asked limit = .ok (limit + 1) :=
  if_pos (by omega)

theorem asked_greatest (hlimit : limit + 1 = 2 ^ 64) : asked limit = .error .overflow :=
  if_neg (by omega)

/-- Bytes without a line end are not cut before there are too many of them. -/
theorem cutLine_all {count : Nat} {bytes : Bytes} (hnewline : 10 ∉ bytes)
    (hcount : bytes.length ≤ count) : cutLine count bytes = (bytes, []) := by
  induction bytes generalizing count with
  | nil => cases count <;> rfl
  | cons byte bytes ih =>
    obtain ⟨hbyte, hbytes⟩ := not_or.mp (fun h => hnewline (List.mem_cons.mpr h))
    cases count with
    | zero => simp at hcount
    | succ count =>
      rw [cutLine, if_neg (Ne.symm hbyte), ih hbytes (by simpa using hcount)]

/-- Only the last byte of a line can be its end. -/
theorem newline_notMem_cutLine (count : Nat) (bytes : Bytes) :
    10 ∉ (cutLine count bytes).1.dropLast := by
  induction count generalizing bytes with
  | zero => exact List.not_mem_nil
  | succ count ih =>
    cases bytes with
    | nil => exact List.not_mem_nil
    | cons byte bytes =>
      by_cases hend : byte = 10
      · rw [cutLine, if_pos hend]
        exact List.not_mem_nil
      · rw [cutLine, if_neg hend]
        intro h
        by_cases hempty : (cutLine count bytes).1 = []
        · simp [hempty] at h
        · rw [List.dropLast_cons_of_ne_nil hempty] at h
          rcases List.mem_cons.mp h with hbyte | htail
          · exact hend hbyte.symm
          · exact ih bytes htail

/-- Bytes that end no line have no line end, if it can only be the last of them. -/
theorem newline_notMem_of_not_endsLine {line : Bytes} (hnewline : 10 ∉ line.dropLast)
    (hends : ¬ endsLine line) : 10 ∉ line := by
  intro h
  have hne : line ≠ [] := List.ne_nil_of_mem h
  rw [← List.dropLast_concat_getLast hne] at h
  rcases List.mem_append.mp h with hfront | hlast
  · exact hnewline hfront
  · refine hends (decide_eq_true ?_)
    rw [List.getLast?_eq_some_getLast hne, ← List.mem_singleton.mp hlast]

namespace Stream

variable {s rest : Stream} {line : Bytes}

/-- The first line of a stream, with its end, and what stands behind it. On a stream
that has ended, the last line need not have an end. -/
structure Splits (s : Stream) (line : Bytes) (rest : Stream) : Prop where
  arrived : s.arrived = line ++ rest.arrived
  closed : rest.closed = s.closed
  newline : 10 ∉ line.dropLast
  ends : endsLine line ∨ s.closed = true ∧ rest.arrived = []

structure Waits (s : Stream) (limit : Nat) : Prop where
  opened : s.closed = false
  newline : 10 ∉ s.arrived
  length_le : s.arrived.length ≤ limit

theorem line?_eq_some_iff {s rest : Stream} {count : Nat} {line : Bytes} :
    s.line? count = some (line, rest) ↔
      (s.closed ∨ IsCut count line) ∧ cutLine count s.arrived = (line, rest.arrived) ∧
        rest.closed = s.closed := by
  simp only [line?, IsCut, Bool.or_eq_true, decide_eq_true_eq, or_assoc]
  constructor
  · intro h
    split at h
    · rename_i hcut
      cases h
      exact ⟨hcut, rfl, rfl⟩
    · cases h
  · rintro ⟨hcut, hline, hclosed⟩
    rw [hline]
    rw [if_pos hcut]
    cases rest
    simp_all

/-- A line that is no longer than it may be is cut off the stream, and no other is. -/
theorem line?_eq_some_iff_splits (hlength : line.length ≤ limit) :
    s.line? (limit + 1) = some (line, rest) ↔ s.Splits line rest := by
  rw [line?_eq_some_iff]
  constructor
  · rintro ⟨hcut, hbytes, hclosed⟩
    have hjoin := cutLine_append_eq (limit + 1) s.arrived
    have hnewline := newline_notMem_cutLine (limit + 1) s.arrived
    have hends := cutLine_ends (limit + 1) s.arrived
    rw [hbytes] at hjoin hnewline hends
    refine ⟨hjoin.symm, hclosed, hnewline, ?_⟩
    rcases hcut with hend | hline | hlong
    · exact (hends (Nat.lt_succ_of_le hlength)).imp_right fun hrest => ⟨hend, hrest⟩
    · exact .inl hline
    · exact absurd hlong (by omega)
  · intro h
    by_cases hends : endsLine line
    · obtain ⟨body, rfl⟩ := List.getLast?_eq_some_iff.mp (of_decide_eq_true hends)
      have hbody : 10 ∉ body := by simpa using h.newline
      refine ⟨.inr (.inl hends), ?_, h.closed⟩
      rw [h.arrived, List.append_assoc]
      exact cutLine_line hbody (by
        rw [List.length_append, List.length_singleton] at hlength
        omega) rest.arrived
    · obtain ⟨hclosed, hrest⟩ := h.ends.resolve_left hends
      refine ⟨.inl hclosed, ?_, h.closed⟩
      rw [h.arrived, hrest, List.append_nil]
      exact cutLine_all (newline_notMem_of_not_endsLine h.newline hends) (by omega)

theorem line?_eq_none_iff : s.line? (limit + 1) = none ↔ s.Waits limit := by
  have hends := cutLine_ends (limit + 1) s.arrived
  have hjoin := cutLine_append_eq (limit + 1) s.arrived
  have hnewline := newline_notMem_cutLine (limit + 1) s.arrived
  rw [line?]
  simp only [ite_eq_right_iff, reduceCtorEq, imp_false, Bool.or_eq_true, decide_eq_true_eq,
    not_or, Nat.not_le, Bool.not_eq_true]
  constructor
  · rintro ⟨⟨hopen, hline⟩, hlength⟩
    have hrest := (hends hlength).resolve_left (by simp [hline])
    rw [hrest, List.append_nil] at hjoin
    rw [hjoin] at hnewline hline hlength
    exact ⟨hopen, newline_notMem_of_not_endsLine hnewline (by simp [hline]),
      Nat.le_of_lt_succ hlength⟩
  · intro h
    have hline : endsLine s.arrived = false := by
      rw [Bool.eq_false_iff]
      intro hends
      exact h.newline (List.mem_of_getLast? (of_decide_eq_true hends))
    rw [cutLine_all h.newline (Nat.le_succ_of_le h.length_le)]
    exact ⟨⟨h.opened, hline⟩, Nat.lt_succ_of_le h.length_le⟩

end Stream

/-- A line that is read as a message: it is there, it is no longer than the limit,
its bytes are those of a text, and the text is the message. -/
structure Carries (decode : Shape.Decoder μ) (limit : Nat) (line : Bytes) (message : μ) : Prop where
  ne_nil : line ≠ []
  length_le : line.length ≤ limit
  parsed : ∃ text, Utf8.decode? line = some text ∧ parseMessage decode text = .ok message

namespace Stream

variable {s rest : Stream}

def Gives (s : Stream) (decode : Shape.Decoder μ) (limit : Nat) (message : μ) (rest : Stream) :
    Prop :=
  ∃ line, s.Splits line rest ∧ Carries decode limit line message

theorem receive_eq_message_iff (hlimit : limit < 2 ^ 64 - 1) :
    s.receive decode limit = .message message rest ↔ s.Gives decode limit message rest := by
  constructor
  · intro h
    rw [receive, asked_eq hlimit] at h
    dsimp only at h
    split at h
    · cases h
    rename_i line behind hline
    split at h
    · cases h
    rename_i hempty
    split at h
    · cases h
    rename_i text htext
    split at h
    · cases h
    rename_i hlength
    split at h
    · rename_i parsed hparsed
      cases h
      have hlength : line.length ≤ limit := Nat.not_lt.mp hlength
      exact ⟨line, (line?_eq_some_iff_splits hlength).mp hline, by simpa using hempty,
        hlength, text, htext, hparsed⟩
    · cases h
  · rintro ⟨line, hsplits, hne, hlength, text, htext, hparsed⟩
    have hline := (line?_eq_some_iff_splits hlength).mpr hsplits
    have hempty : line.isEmpty = false := by simpa using hne
    rw [receive, asked_eq hlimit]
    simp only [hline, hempty, Bool.false_eq_true, if_false, htext, if_neg (Nat.not_lt.mpr hlength),
      hparsed]

theorem receive_eq_nothing_iff (hlimit : limit < 2 ^ 64 - 1) :
    s.receive decode limit = .nothing ↔ s.Waits limit := by
  rw [← line?_eq_none_iff, receive, asked_eq hlimit]
  dsimp only
  constructor
  · intro h
    split at h
    · rename_i hline
      exact hline
    · repeat' split at h
      all_goals cases h
  · intro h
    rw [h]

/-- The message that a stream gives is unique. -/
theorem Gives.eq {message' : μ} {rest' : Stream} (hlimit : limit < 2 ^ 64 - 1)
    (h : s.Gives decode limit message rest) (h' : s.Gives decode limit message' rest') :
    message = message' ∧ rest = rest' := by
  have hreceived := (receive_eq_message_iff hlimit).mpr h
  rw [(receive_eq_message_iff hlimit).mpr h'] at hreceived
  cases hreceived
  exact ⟨rfl, rfl⟩

theorem Gives.not_waits (hlimit : limit < 2 ^ 64 - 1) (h : s.Gives decode limit message rest) :
    ¬ s.Waits limit := by
  intro hwaits
  have hreceived := (receive_eq_message_iff hlimit).mpr h
  rw [(receive_eq_nothing_iff hlimit).mpr hwaits] at hreceived
  cases hreceived

theorem Gives.closed_eq (h : s.Gives decode limit message rest) : rest.closed = s.closed := by
  obtain ⟨line, hsplits, -⟩ := h
  exact hsplits.closed

/-- A stream whose first line is there and is no message, or that ends without one. -/
structure Fails (s : Stream) (decode : Shape.Decoder μ) (limit : Nat) : Prop where
  not_waits : ¬ s.Waits limit
  not_gives : ∀ message rest, ¬ s.Gives decode limit message rest

/-- What is received from a stream: nothing yet, the message of its first line, or a
failure. -/
inductive Received (s : Stream) (decode : Shape.Decoder μ) (limit : Nat) : Incoming μ → Prop
  | nothing (h : s.Waits limit) : Received s decode limit .nothing
  | message (message : μ) (rest : Stream) (h : s.Gives decode limit message rest) :
      Received s decode limit (.message message rest)
  | ended (h : s.Fails decode limit) : Received s decode limit .ended
  | failed (cause : Fault) (h : s.Fails decode limit) : Received s decode limit (.failed cause)

theorem received (s : Stream) (decode : Shape.Decoder μ) (hlimit : limit < 2 ^ 64 - 1) :
    s.Received decode limit (s.receive decode limit) := by
  have hfails (hnothing : s.receive decode limit ≠ .nothing)
      (hmessage : ∀ message rest, s.receive decode limit ≠ .message message rest) :
      s.Fails decode limit :=
    ⟨fun h => hnothing ((receive_eq_nothing_iff hlimit).mpr h),
      fun message rest h => hmessage message rest ((receive_eq_message_iff hlimit).mpr h)⟩
  cases hreceived : s.receive decode limit with
  | nothing => exact .nothing ((receive_eq_nothing_iff hlimit).mp hreceived)
  | message message rest =>
    exact .message message rest ((receive_eq_message_iff hlimit).mp hreceived)
  | ended => exact .ended (hfails (by simp [hreceived]) (by simp [hreceived]))
  | failed cause => exact .failed cause (hfails (by simp [hreceived]) (by simp [hreceived]))

end Stream

end Provenance.Execution
