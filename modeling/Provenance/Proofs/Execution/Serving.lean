import Provenance.Proofs.Execution.Sides

/-!
The worker, whatever the other side sends and when. It waits for one line, and what
that line says is all that counts: whether the compiler is called and with what, what
is answered, and how the worker ends. A line that is not complete when the time is up
is no line, and what comes behind the first line is heard but not heeded.
-/

namespace Provenance.Execution

namespace Stream

variable {μ : Type} {decode : Shape.Decoder μ} {limit : Nat} {s s' : Stream}

def Begins (s : Stream) (decode : Shape.Decoder μ) (limit : Nat) (message : μ) : Prop :=
  ∃ rest, s.Gives decode limit message rest

theorem Begins.eq {message message' : μ} (hlimit : limit < 2 ^ 64 - 1)
    (h : s.Begins decode limit message) (h' : s.Begins decode limit message') :
    message = message' := by
  obtain ⟨rest, hgives⟩ := h
  obtain ⟨rest', hgives'⟩ := h'
  exact (hgives.eq hlimit hgives').1

/-- Once a first line is there, it stays what it is. -/
theorem begins_later_iff (hlimit : limit < 2 ^ 64 - 1) (h : s.IsBefore s')
    (hcame : s.receive decode limit ≠ .nothing) (message : μ) :
    s'.Begins decode limit message ↔ s.Begins decode limit message := by
  have hlater := receive_later decode limit h
  simp only [Begins, ← receive_eq_message_iff hlimit]
  generalize s.receive decode limit = received at *
  generalize s'.receive decode limit = received' at *
  cases hlater with
  | message message hrest => simp
  | ended => rfl
  | failed cause => rfl
  | nothing incoming => exact absurd rfl hcame

end Stream

/-! Time -/

/-- What comes to the worker as time goes by, in nanoseconds since it said that it is
ready: bytes in any chunks and with any delays, and perhaps their end. -/
structure Arrivals where
  upTo : Nat → Stream
  grows : ∀ {time time' : Nat}, time ≤ time' → (upTo time).IsBefore (upTo time')

namespace Arrivals

/-- What of it the worker sees. Where no line has come in time, it does not listen any
longer; else it listens on, to the end of its second wait. -/
def seen (a : Arrivals) (timeout : Duration) (more : Nat) : Stream :=
  match (a.upTo timeout.nanoseconds).receive ParentMessage.decode Limits.standard.maxOutput with
  | .nothing => a.upTo timeout.nanoseconds
  | _ => a.upTo (timeout.nanoseconds + more)

/-- The first line is the one that has come in time. -/
theorem seen_begins_iff (a : Arrivals) (timeout : Duration) (more : Nat)
    (message : ParentMessage) :
    (a.seen timeout more).Begins ParentMessage.decode Limits.standard.maxOutput message ↔
      (a.upTo timeout.nanoseconds).Begins ParentMessage.decode Limits.standard.maxOutput
        message := by
  have hgrows := a.grows (Nat.le_add_right timeout.nanoseconds more)
  unfold seen
  split
  · rfl
  · rename_i hcame
    exact Stream.begins_later_iff (by decide) hgrows hcame message

end Arrivals

/-! Serving -/

def outputs (id : Nat) : Except Fault Json → List WorkerMessage
  | .ok result => [.output id result]
  | .error _ => []

inductive Served (compile : Compile) (asks : ParentMessage → Prop) :
    Service × List (String × Json) → Prop
  | unasked (waited : Duration) (cause : Fault) (h : ∀ message, ¬ asks message) :
      Served compile asks (⟨{ written := [.ready] }, waited, .error cause⟩, [])
  | stopped (waited : Duration) (h : asks .shutdown) :
      Served compile asks (⟨{ written := [.ready] }, waited, .ok ()⟩, [])
  | called (waited : Duration) {id : Nat} {compiler : String} {payload : Json}
      (h : asks (.input id compiler payload)) :
      Served compile asks
        (⟨{ written := .ready :: outputs id (compile compiler payload) }, waited,
          (compile compiler payload).map fun _ => ()⟩, [(compiler, payload)])

/-- Whatever comes behind the input, the worker has answered. -/
theorem answer_eq (id : Nat) (result : Json) (timeout : Duration) (incoming : Stream) :
    ∃ waited, answer id result timeout incoming { written := [.ready] } =
      ⟨{ written := [.ready, .output id result] }, waited, .ok ()⟩ := by
  rw [answer]
  simp only [Outlet.write]
  cases incoming.receive ParentMessage.decode Limits.standard.maxOutput with
  | nothing => exact ⟨timeout, rfl⟩
  | message message rest => exact ⟨⟨0⟩, rfl⟩
  | ended => exact ⟨⟨0⟩, rfl⟩
  | failed cause => exact ⟨⟨0⟩, rfl⟩

theorem served (timeout : Duration) (compile : Compile) (incoming : Stream) :
    Served compile (incoming.Begins ParentMessage.decode Limits.standard.maxOutput)
      (serveRecorded timeout compile incoming {}) := by
  have hlimit : Limits.standard.maxOutput < 2 ^ 64 - 1 := by decide
  have hready : Outlet.write {} WorkerMessage.ready = .ok { written := [.ready] } := rfl
  have hreceived := incoming.received ParentMessage.decode hlimit
  rw [serveRecorded_eq hready]
  generalize incoming.receive ParentMessage.decode Limits.standard.maxOutput = received
    at hreceived ⊢
  cases hreceived with
  | nothing hwaits => exact .unasked _ _ fun message ⟨rest, h⟩ => h.not_waits hlimit hwaits
  | ended hfails => exact .unasked _ _ fun message ⟨rest, h⟩ => hfails.not_gives message rest h
  | failed cause hfails =>
    exact .unasked _ _ fun message ⟨rest, h⟩ => hfails.not_gives message rest h
  | message message rest hgives =>
    cases message with
    | shutdown => exact .stopped _ ⟨rest, hgives⟩
    | input id compiler payload =>
      have hinput : incoming.Begins ParentMessage.decode Limits.standard.maxOutput
          (.input id compiler payload) := ⟨rest, hgives⟩
      have hcalled (waited : Duration) := @Served.called compile _ waited _ _ _ hinput
      cases hcompile : compile compiler payload with
      | error cause =>
        simp only [hcompile, outputs] at hcalled ⊢
        exact hcalled _
      | ok result =>
        obtain ⟨waited, hanswer⟩ := answer_eq id result timeout rest
        simp only [hcompile, outputs, hanswer] at hcalled ⊢
        exact hcalled waited

namespace Served

variable {compile : Compile} {asks : ParentMessage → Prop}
  {run : Service × List (String × Json)}

/-- One line that the worker is ready, and an output at most. -/
theorem written_eq (h : Served compile asks run) :
    ∃ answers, run.1.outlet.written = .ready :: answers ∧ answers.length ≤ 1 ∧
      ∀ message ∈ answers, ∃ id result, message = .output id result := by
  cases h with
  | unasked waited cause _ => exact ⟨[], rfl, Nat.zero_le 1, nofun⟩
  | stopped waited _ => exact ⟨[], rfl, Nat.zero_le 1, nofun⟩
  | @called waited id compiler payload _ =>
    refine ⟨outputs id (compile compiler payload), rfl, ?_⟩
    cases compile compiler payload with
    | error cause => exact ⟨Nat.zero_le 1, nofun⟩
    | ok result =>
      exact ⟨Nat.le_refl 1, fun message h => ⟨id, result, List.mem_singleton.mp h⟩⟩

theorem calls_length (h : Served compile asks run) : run.2.length ≤ 1 := by
  cases h with
  | unasked waited cause _ => exact Nat.zero_le 1
  | stopped waited _ => exact Nat.zero_le 1
  | called waited _ => exact Nat.le_refl 1

section One

variable (hone : ∀ {message message'}, asks message → asks message' → message = message')

include hone

/-- The compiler is called with what was asked for. -/
theorem mem_calls_iff (h : Served compile asks run) (compiler : String) (payload : Json) :
    (compiler, payload) ∈ run.2 ↔ ∃ id, asks (.input id compiler payload) := by
  cases h with
  | unasked waited cause hnone =>
    refine iff_of_false List.not_mem_nil ?_
    rintro ⟨id, hasks⟩
    exact hnone _ hasks
  | stopped waited hstop =>
    refine iff_of_false List.not_mem_nil ?_
    rintro ⟨id, hasks⟩
    cases hone hstop hasks
  | @called waited id compiler' payload' hinput =>
    rw [List.mem_singleton, Prod.mk.injEq]
    constructor
    · rintro ⟨rfl, rfl⟩
      exact ⟨id, hinput⟩
    · rintro ⟨id', hasks⟩
      cases hone hinput hasks
      exact ⟨rfl, rfl⟩

/-- An output is the result of what was asked for, with its number. -/
theorem output_mem_iff (h : Served compile asks run) (id : Nat) (result : Json) :
    .output id result ∈ run.1.outlet.written ↔
      ∃ compiler payload, asks (.input id compiler payload) ∧
        compile compiler payload = .ok result := by
  cases h with
  | unasked waited cause hnone =>
    refine iff_of_false (by simp) ?_
    rintro ⟨compiler, payload, hasks, -⟩
    exact hnone _ hasks
  | stopped waited hstop =>
    refine iff_of_false (by simp) ?_
    rintro ⟨compiler, payload, hasks, -⟩
    cases hone hstop hasks
  | @called waited id' compiler payload hinput =>
    constructor
    · intro hmem
      cases hcompile : compile compiler payload with
      | error cause => simp [hcompile, outputs] at hmem
      | ok found =>
        simp only [hcompile, outputs, List.mem_cons, List.not_mem_nil, or_false, reduceCtorEq,
          false_or, WorkerMessage.output.injEq] at hmem
        obtain ⟨rfl, rfl⟩ := hmem
        exact ⟨compiler, payload, hinput, hcompile⟩
    · rintro ⟨compiler', payload', hasks, hcompile⟩
      cases hone hinput hasks
      simp [hcompile, outputs]

/-- The worker ends well if it was told to stop or has answered. -/
theorem result_eq_ok_iff (h : Served compile asks run) :
    run.1.result = .ok () ↔ asks .shutdown ∨
      ∃ id compiler payload result, asks (.input id compiler payload) ∧
        compile compiler payload = .ok result := by
  cases h with
  | unasked waited cause hnone =>
    refine iff_of_false nofun ?_
    rintro (hasks | ⟨id, compiler, payload, result, hasks, -⟩)
    · exact hnone _ hasks
    · exact hnone _ hasks
  | stopped waited hstop => exact iff_of_true rfl (.inl hstop)
  | @called waited id compiler payload hinput =>
    constructor
    · intro hresult
      cases hcompile : compile compiler payload with
      | error cause => simp [hcompile, Except.map] at hresult
      | ok result => exact .inr ⟨id, compiler, payload, result, hinput, hcompile⟩
    · rintro (hasks | ⟨id', compiler', payload', result, hasks, hcompile⟩)
      · cases hone hinput hasks
      · cases hone hinput hasks
        simp [hcompile, Except.map]

end One

end Served

/-- Against any other side, whatever it sends and with whatever delays: the worker
writes one line that it is ready and one output line at most. It calls the compiler
once at most, and exactly if the line that comes first, before the time is up, is an
input, with what that input gives. An output is written exactly if that call succeeds,
with the number of the input. The worker ends well exactly if the first message tells
it to stop or is an input whose compilation succeeds, whatever follows it. -/
theorem serve_against_any_parent (timeout : Duration) (compile : Compile) (a : Arrivals)
    (more : Nat) :
    let run := serveRecorded timeout compile (a.seen timeout more) {}
    let asks := (a.upTo timeout.nanoseconds).Begins ParentMessage.decode Limits.standard.maxOutput
    run.1 = serve timeout compile (a.seen timeout more) {} ∧
    (∃ answers, run.1.outlet.written = .ready :: answers ∧ answers.length ≤ 1 ∧
      ∀ message ∈ answers, ∃ id result, message = .output id result) ∧
    (∀ message ∈ run.1.outlet.written, IsLine (lineOf message.toJson)) ∧
    run.2.length ≤ 1 ∧
    (∀ compiler payload, (compiler, payload) ∈ run.2 ↔
      ∃ id, asks (.input id compiler payload)) ∧
    (∀ id result, .output id result ∈ run.1.outlet.written ↔
      ∃ compiler payload, asks (.input id compiler payload) ∧
        compile compiler payload = .ok result) ∧
    (run.1.result = .ok () ↔ asks .shutdown ∨
      ∃ id compiler payload result, asks (.input id compiler payload) ∧
        compile compiler payload = .ok result) := by
  intro run asks
  have hasks : (a.seen timeout more).Begins ParentMessage.decode Limits.standard.maxOutput = asks :=
    funext fun message => propext (a.seen_begins_iff timeout more message)
  have hserved : Served compile asks run := hasks ▸ served timeout compile (a.seen timeout more)
  have hone {message message' : ParentMessage} (h : asks message) (h' : asks message') :
      message = message' := h.eq (by decide) h'
  exact ⟨serveRecorded_fst .., hserved.written_eq, fun message _ => isLine_lineOf message.toJson,
    hserved.calls_length, hserved.mem_calls_iff hone, hserved.output_mem_iff hone,
    hserved.result_eq_ok_iff hone⟩

end Provenance.Execution
