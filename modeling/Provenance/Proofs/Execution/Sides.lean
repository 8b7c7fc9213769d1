import Provenance.Execution.Handshake
import Provenance.Proofs.Execution.Stream

/-!
The two sides as more comes from the other one. A side goes on from where it was:
what it has written stays in front of what it writes, calls of the compiler stay
made, and a side that is done does not change any more.
-/

namespace Provenance.Execution

/-! Writing -/

namespace Outlet

variable {μ : Type} {o o' : Outlet μ} {message : μ}

theorem write_eq_ok (h : o.write message = .ok o') : o'.written = o.written ++ [message] := by
  rw [write] at h
  split at h
  · cases h
  · cases h
    rfl

theorem length_write (h : o.write message = .ok o') :
    o'.written.length = o.written.length + 1 := by
  rw [write_eq_ok h, List.length_append, List.length_singleton]

theorem write_extends (h : o.write message = .ok o') : o.written <+: o'.written := by
  rw [write_eq_ok h]
  exact List.prefix_append _ _

end Outlet

/-! The side that gives the work -/

namespace Session

variable {μ α : Type}

def IsBefore (s s' : Session μ α) : Prop :=
  s = s' ∨ s.result = none ∧ s.outlet.written <+: s'.outlet.written

end Session

namespace Task

variable (task : Task) (limit : Nat)

theorem awaitOutput_extends (incoming : Stream) (outlet : Outlet ParentMessage) :
    outlet.written <+: (task.awaitOutput limit incoming outlet).outlet.written := by
  rw [awaitOutput.eq_def]
  split
  · exact List.prefix_rfl
  · exact List.prefix_rfl
  · exact List.prefix_rfl
  · split
    · simp only
      cases hwrite : outlet.write .shutdown with
      | error cause => exact List.prefix_rfl
      | ok outlet' => exact Outlet.write_extends hwrite
    · exact List.prefix_rfl
  · exact List.prefix_rfl

theorem drive_extends (incoming : Stream) (outlet : Outlet ParentMessage) :
    outlet.written <+: (task.drive limit incoming outlet).outlet.written := by
  rw [drive.eq_def]
  split
  · exact List.prefix_rfl
  · exact List.prefix_rfl
  · exact List.prefix_rfl
  · split
    · exact List.prefix_rfl
    · rename_i hwrite
      exact (Outlet.write_extends hwrite).trans (awaitOutput_extends task limit _ _)
  · exact List.prefix_rfl

/-- A session writes two messages at most. -/
theorem awaitOutput_length (incoming : Stream) (outlet : Outlet ParentMessage) :
    (task.awaitOutput limit incoming outlet).outlet.written.length ≤ outlet.written.length + 1 := by
  rw [awaitOutput.eq_def]
  split
  · exact Nat.le_succ _
  · exact Nat.le_succ _
  · exact Nat.le_succ _
  · split
    · simp only
      cases hwrite : outlet.write .shutdown with
      | error cause => exact Nat.le_succ _
      | ok outlet' => exact (Outlet.length_write hwrite).le
    · exact Nat.le_succ _
  · exact Nat.le_succ _

theorem drive_length (incoming : Stream) (outlet : Outlet ParentMessage) :
    (task.drive limit incoming outlet).outlet.written.length ≤ outlet.written.length + 2 := by
  rw [drive.eq_def]
  split
  · exact Nat.le_add_right _ 2
  · exact Nat.le_add_right _ 2
  · exact Nat.le_add_right _ 2
  · rename_i rest _
    split
    · exact Nat.le_add_right _ 2
    · rename_i outlet' hwrite
      have hlength := awaitOutput_length task limit rest outlet'
      rwa [Outlet.length_write hwrite] at hlength
  · exact Nat.le_add_right _ 2

variable {incoming incoming' : Stream}

theorem awaitOutput_later (h : incoming.IsBefore incoming') (outlet : Outlet ParentMessage) :
    (task.awaitOutput limit incoming outlet).IsBefore
      (task.awaitOutput limit incoming' outlet) := by
  have hlater := Stream.receive_later WorkerMessage.decode limit h
  have hextends := awaitOutput_extends task limit incoming' outlet
  rw [awaitOutput.eq_def, awaitOutput.eq_def] at *
  generalize incoming.receive WorkerMessage.decode limit = received at *
  generalize incoming'.receive WorkerMessage.decode limit = received' at *
  cases hlater with
  | message message hrest => exact .inl (by cases message <;> rfl)
  | ended => exact .inl rfl
  | failed cause => exact .inl rfl
  | nothing => exact .inr ⟨rfl, hextends⟩

/-- More from the worker lets the session go on and changes nothing of it. -/
theorem drive_later (h : incoming.IsBefore incoming') (outlet : Outlet ParentMessage) :
    (task.drive limit incoming outlet).IsBefore (task.drive limit incoming' outlet) := by
  have hlater := Stream.receive_later WorkerMessage.decode limit h
  have hextends := drive_extends task limit incoming' outlet
  rw [drive.eq_def, drive.eq_def] at *
  generalize incoming.receive WorkerMessage.decode limit = received at *
  generalize incoming'.receive WorkerMessage.decode limit = received' at *
  cases hlater with
  | message message hrest =>
    cases message with
    | ready =>
      simp only
      cases outlet.write (.input task.id task.compiler task.payload) with
      | error cause => exact .inl rfl
      | ok outlet' => exact awaitOutput_later task limit hrest outlet'
    | output id result => exact .inl rfl
  | ended => exact .inl rfl
  | failed cause => exact .inl rfl
  | nothing => exact .inr ⟨rfl, hextends⟩

end Task

/-! The worker -/

def recorded (compile : Compile) :
    String → Json → StateM (List (String × Json)) (Except Fault Json) :=
  fun compiler payload => do
    modify (· ++ [(compiler, payload)])
    pure (compile compiler payload)

def serveRecorded (timeout : Duration) (compile : Compile) (incoming : Stream)
    (outlet : Outlet WorkerMessage) : Service × List (String × Json) :=
  (serveIn timeout (recorded compile) incoming outlet).run []

/-- A record changes nothing. -/
theorem serveRecorded_fst (timeout : Duration) (compile : Compile) (incoming : Stream)
    (outlet : Outlet WorkerMessage) :
    (serveRecorded timeout compile incoming outlet).1 = serve timeout compile incoming outlet := by
  rw [serveRecorded, serve, serveIn.eq_def, serveIn.eq_def]
  cases outlet.write .ready with
  | error cause => rfl
  | ok outlet =>
    simp only
    cases incoming.receive ParentMessage.decode Limits.standard.maxOutput with
    | nothing => rfl
    | failed cause => rfl
    | ended => rfl
    | message message rest =>
      cases message with
      | shutdown => rfl
      | input id compiler payload =>
        simp only [recorded]
        cases compile compiler payload <;> rfl

/-- What the worker's side does with a first message or without one. -/
theorem serveRecorded_eq {timeout : Duration} {compile : Compile} {incoming : Stream}
    {outlet outlet' : Outlet WorkerMessage} (h : outlet.write .ready = .ok outlet') :
    serveRecorded timeout compile incoming outlet =
      match incoming.receive ParentMessage.decode Limits.standard.maxOutput with
      | .nothing => (⟨outlet', timeout, .error (.breach (.noInput timeout))⟩, [])
      | .failed cause => (⟨outlet', ⟨0⟩, .error cause⟩, [])
      | .ended => (⟨outlet', ⟨0⟩, .error (.breach .closedBeforeInput)⟩, [])
      | .message .shutdown _ => (⟨outlet', ⟨0⟩, .ok ()⟩, [])
      | .message (.input id compiler payload) rest =>
        match compile compiler payload with
        | .error cause => (⟨outlet', ⟨0⟩, .error cause⟩, [(compiler, payload)])
        | .ok result => (answer id result timeout rest outlet', [(compiler, payload)]) := by
  rw [serveRecorded, serveIn, h]
  cases incoming.receive ParentMessage.decode Limits.standard.maxOutput with
  | nothing => rfl
  | failed cause => rfl
  | ended => rfl
  | message message rest =>
    cases message with
    | shutdown => rfl
    | input id compiler payload =>
      simp only [recorded]
      cases compile compiler payload <;> rfl

/-- The second service with its calls is the first one, later: the first one has
waited all its time. -/
def IsBeforeServing (timeout : Duration) (s s' : Service × List (String × Json)) : Prop :=
  s = s' ∨ s.1.waited = timeout ∧ s.1.outlet.written <+: s'.1.outlet.written ∧ s.2 <+: s'.2

/-- An output that goes through is the last that is written. -/
theorem answer_outlet {id : Nat} {result : Json} {outlet outlet' : Outlet WorkerMessage}
    (h : outlet.write (.output id result) = .ok outlet') (timeout : Duration) (incoming : Stream) :
    (answer id result timeout incoming outlet).outlet = outlet' := by
  rw [answer, h]
  simp only
  split <;> rfl

theorem answer_extends (id : Nat) (result : Json) (timeout : Duration) (incoming : Stream)
    (outlet : Outlet WorkerMessage) :
    outlet.written <+: (answer id result timeout incoming outlet).outlet.written := by
  cases hwrite : outlet.write (.output id result) with
  | error cause =>
    rw [answer, hwrite]
  | ok outlet' =>
    rw [answer_outlet hwrite]
    exact Outlet.write_extends hwrite

theorem answer_length (id : Nat) (result : Json) (timeout : Duration) (incoming : Stream)
    (outlet : Outlet WorkerMessage) :
    (answer id result timeout incoming outlet).outlet.written.length ≤
      outlet.written.length + 1 := by
  cases hwrite : outlet.write (.output id result) with
  | error cause =>
    rw [answer, hwrite]
    exact Nat.le_succ _
  | ok outlet' =>
    rw [answer_outlet hwrite]
    exact (Outlet.length_write hwrite).le

/-- The worker writes that it is ready, and an answer if it has one. -/
theorem serveRecorded_outlet {timeout : Duration} {compile : Compile} {incoming : Stream}
    {outlet outlet' : Outlet WorkerMessage} (h : outlet.write .ready = .ok outlet') :
    (serveRecorded timeout compile incoming outlet).1.outlet = outlet' ∨
      ∃ id result rest, (serveRecorded timeout compile incoming outlet).1 =
        answer id result timeout rest outlet' := by
  rw [serveRecorded_eq h]
  cases incoming.receive ParentMessage.decode Limits.standard.maxOutput with
  | nothing => exact .inl rfl
  | failed cause => exact .inl rfl
  | ended => exact .inl rfl
  | message message rest =>
    cases message with
    | shutdown => exact .inl rfl
    | input id compiler payload =>
      simp only
      cases compile compiler payload with
      | error cause => exact .inl rfl
      | ok result => exact .inr ⟨id, result, rest, rfl⟩

theorem serveRecorded_extends {timeout : Duration} {compile : Compile} {incoming : Stream}
    {outlet outlet' : Outlet WorkerMessage} (h : outlet.write .ready = .ok outlet') :
    outlet'.written <+: (serveRecorded timeout compile incoming outlet).1.outlet.written := by
  rcases serveRecorded_outlet h with hready | ⟨id, result, rest, hanswer⟩
  · rw [hready]
  · rw [hanswer]
    exact answer_extends id result timeout rest outlet'

/-- A worker writes two messages at most. -/
theorem serve_length (timeout : Duration) (compile : Compile) (incoming : Stream)
    (outlet : Outlet WorkerMessage) :
    (serve timeout compile incoming outlet).outlet.written.length ≤ outlet.written.length + 2 := by
  rw [← serveRecorded_fst]
  cases hwrite : outlet.write .ready with
  | error cause =>
    rw [serveRecorded, serveIn, hwrite]
    exact Nat.le_add_right _ 2
  | ok outlet' =>
    have hlength := Outlet.length_write hwrite
    rcases serveRecorded_outlet hwrite with hready | ⟨id, result, rest, hanswer⟩
    · rw [hready, hlength]
      exact Nat.le_succ _
    · rw [hanswer]
      exact (answer_length id result timeout rest outlet').trans (by rw [hlength])

theorem answer_later {incoming incoming' : Stream} (h : incoming.IsBefore incoming') (id : Nat)
    (result : Json) (timeout : Duration) (outlet : Outlet WorkerMessage)
    (calls : List (String × Json)) :
    IsBeforeServing timeout (answer id result timeout incoming outlet, calls)
      (answer id result timeout incoming' outlet, calls) := by
  have hlater := Stream.receive_later ParentMessage.decode Limits.standard.maxOutput h
  rw [answer, answer]
  cases outlet.write (.output id result) with
  | error cause => exact .inl rfl
  | ok outlet' =>
    simp only
    generalize incoming.receive ParentMessage.decode Limits.standard.maxOutput = received at *
    generalize incoming'.receive ParentMessage.decode Limits.standard.maxOutput = received' at *
    cases hlater with
    | message message hrest => exact .inl rfl
    | ended => exact .inl rfl
    | failed cause => exact .inl rfl
    | nothing =>
      refine .inr ⟨rfl, ?_, List.prefix_rfl⟩
      cases received' <;> exact List.prefix_rfl

/-- More from the other side lets the worker go on and changes nothing of what it
has done. -/
theorem serveRecorded_later {incoming incoming' : Stream} (h : incoming.IsBefore incoming')
    (timeout : Duration) (compile : Compile) (outlet : Outlet WorkerMessage) :
    IsBeforeServing timeout (serveRecorded timeout compile incoming outlet)
      (serveRecorded timeout compile incoming' outlet) := by
  have hlater := Stream.receive_later ParentMessage.decode Limits.standard.maxOutput h
  cases hwrite : outlet.write .ready with
  | error cause =>
    rw [serveRecorded, serveRecorded, serveIn, serveIn, hwrite]
    exact .inl rfl
  | ok outlet' =>
    have hextends : outlet'.written <+:
        (serveRecorded timeout compile incoming' outlet).1.outlet.written :=
      serveRecorded_extends hwrite
    rw [serveRecorded_eq hwrite, serveRecorded_eq hwrite] at *
    generalize incoming.receive ParentMessage.decode Limits.standard.maxOutput = received at *
    generalize incoming'.receive ParentMessage.decode Limits.standard.maxOutput = received' at *
    cases hlater with
    | message message hrest =>
      cases message with
      | shutdown => exact .inl rfl
      | input id compiler payload =>
        simp only
        cases compile compiler payload with
        | error cause => exact .inl rfl
        | ok result => exact answer_later hrest id result timeout outlet' _
    | ended => exact .inl rfl
    | failed cause => exact .inl rfl
    | nothing => exact .inr ⟨rfl, hextends, List.nil_prefix⟩

end Provenance.Execution
