import Provenance.Proofs.Execution.Sides

/-!
The side that gives the work, whatever the worker sends. It goes from one line to the
next: the first has to say that the worker is ready, the second has to be the output
with the number of the work. The input goes out between the two and the word to stop
behind the second, so what has been written tells how far the worker has come.
-/

namespace Provenance.Execution

namespace Task

def input (task : Task) : ParentMessage := .input task.id task.compiler task.payload

variable {task : Task} {limit : Nat} {incoming : Stream} {outlet : Outlet ParentMessage}

/-- Where the wait for an output comes to: there is no line yet, or the line is the
output, or it is something else. -/
inductive Awaited (task : Task) (limit : Nat) (incoming : Stream) (outlet : Outlet ParentMessage) :
    Session ParentMessage Json → Prop
  | waiting (h : incoming.Waits limit) : Awaited task limit incoming outlet ⟨outlet, none⟩
  | answered {result : Json} {rest : Stream} {last : Outlet ParentMessage}
      (h : incoming.Gives WorkerMessage.decode limit (.output task.id result) rest)
      (hlast : last = outlet ∨ outlet.write .shutdown = .ok last) :
      Awaited task limit incoming outlet ⟨last, some (.ok result)⟩
  | refused (cause : Fault) (hcame : ¬ incoming.Waits limit)
      (h : ∀ result rest,
        ¬ incoming.Gives WorkerMessage.decode limit (.output task.id result) rest) :
      Awaited task limit incoming outlet ⟨outlet, some (.error cause)⟩

/-- Where the whole conversation comes to: there is no line yet, or the worker is ready
and the input is on its way, or one of the two fails. -/
inductive Driven (task : Task) (limit : Nat) (incoming : Stream) (outlet : Outlet ParentMessage) :
    Session ParentMessage Json → Prop
  | waiting (h : incoming.Waits limit) : Driven task limit incoming outlet ⟨outlet, none⟩
  | sent {behind : Stream} {after : Outlet ParentMessage} {session : Session ParentMessage Json}
      (hready : incoming.Gives WorkerMessage.decode limit .ready behind)
      (hsent : outlet.write task.input = .ok after)
      (h : task.Awaited limit behind after session) : Driven task limit incoming outlet session
  | refused (cause : Fault) (hcame : ¬ incoming.Waits limit)
      (h : ∀ behind after, incoming.Gives WorkerMessage.decode limit .ready behind →
        outlet.write task.input ≠ .ok after) :
      Driven task limit incoming outlet ⟨outlet, some (.error cause)⟩

theorem awaited (task : Task) (hlimit : limit < 2 ^ 64 - 1) (incoming : Stream)
    (outlet : Outlet ParentMessage) :
    task.Awaited limit incoming outlet (task.awaitOutput limit incoming outlet) := by
  have hreceived := incoming.received WorkerMessage.decode hlimit
  unfold awaitOutput
  generalize incoming.receive WorkerMessage.decode limit = received at hreceived ⊢
  cases hreceived with
  | nothing hwaits => exact .waiting hwaits
  | ended hfails => exact .refused _ hfails.not_waits fun _ _ => hfails.not_gives _ _
  | failed cause hfails => exact .refused cause hfails.not_waits fun _ _ => hfails.not_gives _ _
  | message message rest hgives =>
    cases message with
    | ready =>
      refine .refused _ (hgives.not_waits hlimit) fun result rest' houtput => ?_
      cases (hgives.eq hlimit houtput).1
    | output id result =>
      by_cases hid : id = task.id
      · subst hid
        simp only [if_true]
        refine .answered hgives ?_
        cases outlet.write .shutdown with
        | error cause => exact .inl rfl
        | ok last => exact .inr rfl
      · simp only [if_neg hid]
        refine .refused _ (hgives.not_waits hlimit) fun result' rest' houtput => ?_
        cases (hgives.eq hlimit houtput).1
        exact hid rfl

theorem driven (task : Task) (hlimit : limit < 2 ^ 64 - 1) (incoming : Stream)
    (outlet : Outlet ParentMessage) :
    task.Driven limit incoming outlet (task.drive limit incoming outlet) := by
  have hreceived := incoming.received WorkerMessage.decode hlimit
  unfold drive
  generalize incoming.receive WorkerMessage.decode limit = received at hreceived ⊢
  cases hreceived with
  | nothing hwaits => exact .waiting hwaits
  | ended hfails =>
    exact .refused _ hfails.not_waits fun _ _ hready => absurd hready (hfails.not_gives _ _)
  | failed cause hfails =>
    exact .refused cause hfails.not_waits fun _ _ hready => absurd hready (hfails.not_gives _ _)
  | message message rest hgives =>
    cases message with
    | output id result =>
      refine .refused _ (hgives.not_waits hlimit) fun behind after hready => ?_
      cases (hgives.eq hlimit hready).1
    | ready =>
      simp only
      cases hwrite : outlet.write (.input task.id task.compiler task.payload) with
      | ok after => exact .sent hgives hwrite (task.awaited hlimit rest after)
      | error cause =>
        refine .refused cause (hgives.not_waits hlimit) fun behind after _ hsent => ?_
        cases hwrite.symm.trans hsent

/-- The result that was waited for is there exactly if the line is the output. -/
theorem Awaited.result_eq_ok_iff (hlimit : limit < 2 ^ 64 - 1)
    {session : Session ParentMessage Json} (h : task.Awaited limit incoming outlet session)
    (result : Json) :
    session.result = some (.ok result) ↔
      ∃ rest, incoming.Gives WorkerMessage.decode limit (.output task.id result) rest := by
  cases h with
  | waiting h =>
    constructor
    · intro hresult
      cases hresult
    · rintro ⟨rest, hgives⟩
      exact absurd h (hgives.not_waits hlimit)
  | @answered found rest last h hlast =>
    constructor
    · intro hresult
      cases hresult
      exact ⟨rest, h⟩
    · rintro ⟨rest', hgives⟩
      obtain ⟨hsame, -⟩ := h.eq hlimit hgives
      cases hsame
      rfl
  | refused cause hcame h =>
    constructor
    · intro hresult
      cases hresult
    · rintro ⟨rest, hgives⟩
      exact absurd hgives (h result rest)

/-- Only an answer is followed by the word to stop, and by nothing else. -/
theorem Awaited.written_cases {session : Session ParentMessage Json}
    (h : task.Awaited limit incoming outlet session) :
    session.outlet.written = outlet.written ∨
      session.outlet.written = outlet.written ++ [.shutdown] ∧
        ∃ result, session.result = some (.ok result) := by
  cases h with
  | waiting h => exact .inl rfl
  | @answered result rest last h hlast =>
    rcases hlast with rfl | hwrite
    · exact .inl rfl
    · exact .inr ⟨Outlet.write_eq_ok hwrite, result, rfl⟩
  | refused cause hcame h => exact .inl rfl

theorem Awaited.result_eq_none_iff {session : Session ParentMessage Json}
    (hlimit : limit < 2 ^ 64 - 1) (h : task.Awaited limit incoming outlet session) :
    session.result = none ↔ incoming.Waits limit := by
  cases h with
  | waiting h => exact ⟨fun _ => h, fun _ => rfl⟩
  | answered h hlast => exact ⟨nofun, fun hwaits => absurd hwaits (h.not_waits hlimit)⟩
  | refused cause hcame h => exact ⟨nofun, fun hwaits => absurd hwaits hcame⟩

section Driven

variable {session : Session ParentMessage Json}

/-- Once the worker is ready and the input is on its way, the output is waited for. -/
theorem Driven.awaited (hlimit : limit < 2 ^ 64 - 1)
    (h : task.Driven limit incoming outlet session) {behind : Stream}
    {after : Outlet ParentMessage}
    (hready : incoming.Gives WorkerMessage.decode limit .ready behind)
    (hsent : outlet.write task.input = .ok after) : task.Awaited limit behind after session := by
  cases h with
  | waiting hwaits => exact absurd hwaits (hready.not_waits hlimit)
  | sent hready' hsent' hawaited =>
    obtain ⟨-, rfl⟩ := hready.eq hlimit hready'
    cases hsent.symm.trans hsent'
    exact hawaited
  | refused cause hcame hrefused => exact absurd hsent (hrefused behind after hready)

theorem Driven.result_eq_ok_iff (hlimit : limit < 2 ^ 64 - 1)
    (h : task.Driven limit incoming outlet session) (result : Json) :
    session.result = some (.ok result) ↔
      ∃ behind rest, incoming.Gives WorkerMessage.decode limit .ready behind ∧
        (∃ after, outlet.write task.input = .ok after) ∧
        behind.Gives WorkerMessage.decode limit (.output task.id result) rest := by
  constructor
  · intro hresult
    cases h with
    | waiting hwaits => cases hresult
    | @sent behind after _ hready hsent hawaited =>
      obtain ⟨rest, hgives⟩ := (hawaited.result_eq_ok_iff hlimit result).mp hresult
      exact ⟨behind, rest, hready, ⟨after, hsent⟩, hgives⟩
    | refused cause hcame hrefused => cases hresult
  · rintro ⟨behind, rest, hready, ⟨after, hsent⟩, hgives⟩
    have hawaited := h.awaited hlimit hready hsent
    exact (hawaited.result_eq_ok_iff hlimit result).mpr ⟨rest, hgives⟩

theorem Driven.result_eq_none_iff (hlimit : limit < 2 ^ 64 - 1)
    (h : task.Driven limit incoming outlet session) :
    session.result = none ↔ incoming.Waits limit ∨
      ∃ behind, incoming.Gives WorkerMessage.decode limit .ready behind ∧
        (∃ after, outlet.write task.input = .ok after) ∧ behind.Waits limit := by
  constructor
  · intro hresult
    cases h with
    | waiting hwaits => exact .inl hwaits
    | @sent behind after _ hready hsent hawaited =>
      exact .inr ⟨behind, hready, ⟨after, hsent⟩, (hawaited.result_eq_none_iff hlimit).mp hresult⟩
    | refused cause hcame hrefused => cases hresult
  · rintro (hwaits | ⟨behind, hready, ⟨after, hsent⟩, hwaits⟩)
    · cases h with
      | waiting _ => rfl
      | sent hready _ _ => exact absurd hwaits (hready.not_waits hlimit)
      | refused cause hcame _ => exact absurd hwaits hcame
    · exact ((h.awaited hlimit hready hsent).result_eq_none_iff hlimit).mpr hwaits

/-- On a stream that has ended there is a result. -/
theorem Driven.result_ne_none (hlimit : limit < 2 ^ 64 - 1)
    (h : task.Driven limit incoming outlet session) (hclosed : incoming.closed = true) :
    session.result ≠ none := by
  intro hnone
  rcases (h.result_eq_none_iff hlimit).mp hnone with
    hwaits | ⟨behind, hready, -, hwaits⟩
  · cases hclosed.symm.trans hwaits.opened
  · cases (hready.closed_eq.trans hclosed).symm.trans hwaits.opened

/-- What has been written tells how far the worker has come. -/
theorem Driven.written_cases (hlimit : limit < 2 ^ 64 - 1) (hfresh : outlet.written = [])
    (h : task.Driven limit incoming outlet session) :
    (session.outlet.written = [] ∧
      ∀ behind after, incoming.Gives WorkerMessage.decode limit .ready behind →
        outlet.write task.input ≠ .ok after) ∨
    (∃ behind after, incoming.Gives WorkerMessage.decode limit .ready behind ∧
      outlet.write task.input = .ok after) ∧
      (session.outlet.written = [task.input] ∨
        session.outlet.written = [task.input, .shutdown] ∧
          ∃ result, session.result = some (.ok result)) := by
  cases h with
  | waiting hwaits =>
    exact .inl ⟨hfresh, fun _ _ hready => absurd hwaits (hready.not_waits hlimit)⟩
  | @sent behind after _ hready hsent hawaited =>
    have hafter : after.written = [task.input] := by
      rw [Outlet.write_eq_ok hsent, hfresh, List.nil_append]
    refine .inr ⟨⟨behind, after, hready, hsent⟩, ?_⟩
    rcases hawaited.written_cases with hwritten | ⟨hwritten, hresult⟩
    · exact .inl (hwritten.trans hafter)
    · exact .inr ⟨by rw [hwritten, hafter, List.singleton_append], hresult⟩
  | refused cause hcame hrefused => exact .inl ⟨hfresh, hrefused⟩

end Driven

/-- Against any worker, whatever its bytes and wherever its stream ends or stands still:
the work succeeds exactly if the first line says ready, the input can be written, and
the second line is the output with the number of the work. There is no result as long
as one of these lines may still come, and on a stream that has ended there is one.
Of the input and the word to stop, in this order, each is written once at most, the
first only behind a line that says ready, the second only if the work succeeds. What
has been written and the result stay as more comes. -/
theorem drive_against_any_worker (task : Task) (hlimit : limit < 2 ^ 64 - 1) (incoming : Stream)
    (outlet : Outlet ParentMessage) (hfresh : outlet.written = []) :
    let session := task.drive limit incoming outlet
    (∀ result, session.result = some (.ok result) ↔
      ∃ behind rest, incoming.Gives WorkerMessage.decode limit .ready behind ∧
        (∃ after, outlet.write task.input = .ok after) ∧
        behind.Gives WorkerMessage.decode limit (.output task.id result) rest) ∧
    (session.result = none ↔ incoming.Waits limit ∨
      ∃ behind, incoming.Gives WorkerMessage.decode limit .ready behind ∧
        (∃ after, outlet.write task.input = .ok after) ∧ behind.Waits limit) ∧
    (incoming.closed = true → session.result ≠ none) ∧
    session.outlet.written <+: [task.input, .shutdown] ∧
    (session.outlet.written ≠ [] ↔
      ∃ behind after, incoming.Gives WorkerMessage.decode limit .ready behind ∧
        outlet.write task.input = .ok after) ∧
    (.shutdown ∈ session.outlet.written → ∃ result, session.result = some (.ok result)) ∧
    ∀ earlier : Stream, earlier.IsBefore incoming →
      (task.drive limit earlier outlet).IsBefore session := by
  intro session
  have hdriven : task.Driven limit incoming outlet session := task.driven hlimit incoming outlet
  refine ⟨hdriven.result_eq_ok_iff hlimit, hdriven.result_eq_none_iff hlimit,
    hdriven.result_ne_none hlimit, ?_⟩
  have hlater (earlier : Stream) (h : earlier.IsBefore incoming) :
      (task.drive limit earlier outlet).IsBefore session := task.drive_later limit h outlet
  rcases hdriven.written_cases hlimit hfresh with
    ⟨hwritten, hnot⟩ | ⟨⟨behind, after, hready, hsent⟩, hwritten | ⟨hwritten, hresult⟩⟩
  · rw [hwritten]
    refine ⟨List.nil_prefix, ?_, fun hstop => absurd hstop List.not_mem_nil, hlater⟩
    constructor
    · intro hne
      exact absurd rfl hne
    · rintro ⟨behind, after, hready, hsent⟩
      exact absurd hsent (hnot behind after hready)
  · rw [hwritten]
    refine ⟨⟨[.shutdown], rfl⟩, ?_, ?_, hlater⟩
    · exact iff_of_true (List.cons_ne_nil _ _) ⟨behind, after, hready, hsent⟩
    · intro hstop
      cases List.mem_singleton.mp hstop
  · rw [hwritten]
    refine ⟨List.prefix_rfl, ?_, fun _ => hresult, hlater⟩
    exact iff_of_true (List.cons_ne_nil _ _) ⟨behind, after, hready, hsent⟩

/-- A worker that goes on talking behind its output changes nothing. -/
theorem drive_talkative_worker :
    let task : Task := ⟨1, "soljson.js", .null⟩
    let output := lineOf (WorkerMessage.output 1 (.bool true)).toJson
    let incoming : Stream := ⟨lineOf WorkerMessage.ready.toJson ++ (output ++ [123, 10]), true⟩
    (task.drive 64 incoming {}).result = some (.ok (.bool true)) := by
  intro task output incoming
  have hready : IsReadable WorkerMessage.ready.toJson 64 :=
    ⟨⟨trivial, trivial⟩, by decide, by rw [lineOf_eq]; decide⟩
  have houtput : IsReadable (WorkerMessage.output 1 (.bool true)).toJson 64 :=
    ⟨⟨trivial, ⟨by decide, by decide⟩, trivial, trivial⟩, by decide, by rw [lineOf_eq]; decide⟩
  have hfirst : incoming.Gives WorkerMessage.decode 64 .ready ⟨output ++ [123, 10], true⟩ :=
    (Stream.receive_eq_message_iff (by decide)).mp
      (Stream.receive_workerMessage .ready trivial hready (by decide) rfl)
  have hsecond : Stream.Gives ⟨output ++ [123, 10], true⟩ WorkerMessage.decode 64
      (.output 1 (.bool true)) ⟨[123, 10], true⟩ :=
    (Stream.receive_eq_message_iff (by decide)).mp
      (Stream.receive_workerMessage _ ⟨by decide, rfl⟩ houtput (by decide) rfl)
  obtain ⟨hresult, -⟩ :=
    drive_against_any_worker task (show 64 < 2 ^ 64 - 1 by decide) incoming {} rfl
  exact (hresult _).mpr ⟨_, _, hfirst, ⟨_, rfl⟩, hsecond⟩

end Task

end Provenance.Execution
