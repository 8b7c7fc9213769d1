import Provenance.Proofs.Execution.Handshake

/-!
Why writing does not fail in an exchange: at the time when a side writes, the other
one has not returned. The worker answers while the other side waits for its answer,
and is told to stop while it waits for that.
-/

namespace Provenance.Execution.Parties

variable {p : Parties} {s s' : Exchange}

/-- The line of the worker that is ready. -/
theorem exists_readyLine : ∃ front : Bytes, 10 ∉ front ∧
    lineOf WorkerMessage.ready.toJson = front ++ [10] :=
  ⟨_, by decide, lineOf_eq _⟩

/-- What comes first for the worker is its input. -/
theorem input_begins (p : Parties) (s : Exchange) :
    (p.session s).outlet.written = [] ∨ [p.input] <+: (p.session s).outlet.written := by
  rw [session, Task.drive.eq_def]
  split
  · exact .inl rfl
  · exact .inl rfl
  · exact .inl rfl
  · exact .inr (p.task.awaitOutput_extends p.limit _ { written := [p.input] })
  · exact .inl rfl

/-- A side that was sent one line only, or a front of it, and has written is waiting
for more, or has seen the end. -/
theorem session_of_readyLine (hp : p.IsProper)
    (harrived : s.toParent.arrived <+: lineOf WorkerMessage.ready.toJson)
    (hsent : (p.session s).outlet.written ≠ []) :
    (p.session s).outlet.written = [p.input] ∧
      (s.toParent.closed = false → ¬ p.ParentIsDone s) := by
  obtain ⟨front, hnewline, hline⟩ := exists_readyLine
  rw [hline] at harrived
  rw [ParentIsDone]
  rw [session, Task.drive.eq_def] at hsent ⊢
  split at hsent
  · exact absurd rfl hsent
  · exact absurd rfl hsent
  · exact absurd rfl hsent
  · rename_i behind hready
    obtain rfl := Stream.receive_single hp.limit_lt hnewline harrived hready
    cases hclosed : s.toParent.closed with
    | false => simp [Outlet.write, Task.awaitOutput, Stream.receive_start hp.limit_lt, input]
    | true => simp [Outlet.write, Task.awaitOutput, Stream.receive_end hp.limit_lt, input]
  · exact absurd rfl hsent

/-- A worker that has written an output has received an input. -/
theorem exists_received_of_output (h : (p.service s).outlet.written ≠ [.ready]) :
    ∃ id compiler payload rest,
      s.toWorker.receive ParentMessage.decode Limits.standard.maxOutput =
        .message (.input id compiler payload) rest := by
  rcases serving_cases p s with ⟨-, hready⟩ | ⟨id, compiler, payload, rest, hreceived, -⟩
  · exact absurd hready h
  · exact ⟨id, compiler, payload, rest, hreceived⟩

/-- A worker that was sent its input only, or a front of it, and has written an output
is waiting for more. -/
theorem service_of_inputLine (hp : p.IsProper)
    (harrived : s.toWorker.arrived <+: lineOf p.input.toJson) (hopen : s.toWorker.closed = false)
    (houtput : (p.service s).outlet.written ≠ [.ready]) : ¬ p.WorkerIsDone s := by
  have hnewline := newline_notMem_text p.input.toJson
  obtain ⟨id, compiler, payload, rest, hreceived⟩ := exists_received_of_output houtput
  have hserving := serving_eq p s
  rw [lineOf_eq] at harrived
  obtain rfl := Stream.receive_single capacity_lt hnewline harrived hreceived
  rw [hopen] at hreceived
  simp only [hreceived] at hserving
  split at hserving
  · exact absurd (by rw [(Prod.mk.inj hserving).1]) houtput
  · rename_i result hresult
    have hwaited : (p.service s).waited = p.timeout := by
      rw [(Prod.mk.inj hserving).1]
      simp [answer, Outlet.write, Stream.receive_start capacity_lt]
    rw [WorkerIsDone, hwaited]
    exact hp.timeout_ne

/-- A worker to which nothing was sent waits. -/
theorem service_of_nothing (hp : p.IsProper) (harrived : s.toWorker.arrived = [])
    (hopen : s.toWorker.closed = false) : ¬ p.WorkerIsDone s := by
  have hstream : s.toWorker = ⟨[], false⟩ := by rw [← harrived, ← hopen]
  have hserving := serving_eq p s
  rw [hstream, Stream.receive_start capacity_lt] at hserving
  rw [WorkerIsDone, (Prod.mk.inj hserving).1]
  exact hp.timeout_ne

/-! When a side writes -/

/-- A step brings nothing but what had been written before. -/
theorem Step.arrived_extends (h : p.Step s s') (hs : p.Consistent s) :
    s'.toWorker.arrived <+: p.forWorker s ∧ s'.toParent.arrived <+: p.forParent s := by
  cases h with
  | toWorker _ _ hwritten => exact ⟨hwritten, hs.toParent⟩
  | toParent _ _ hwritten => exact ⟨hs.toWorker, hwritten⟩
  | workerCloses => exact ⟨hs.toWorker, hs.toParent⟩
  | parentCloses => exact ⟨hs.toWorker, hs.toParent⟩

/-- When the worker writes, the other side has not returned. -/
theorem Step.parent_hears (hstep : p.Step s s') (hp : p.IsProper) (hs : p.Consistent s)
    (hnew : (p.service s').outlet.written ≠ (p.service s).outlet.written) :
    ¬ p.ParentIsDone s := by
  have hopen : s.toParent.closed = false := by
    refine Bool.eq_false_iff.mpr fun hclosed => hnew ?_
    rw [hstep.service_eq hp.timeout_ne (hs.parentStream hclosed).1]
  have hready : (p.service s).outlet.written = [.ready] := by
    have hlength : (p.service s').outlet.written.length ≤ 2 :=
      serve_length p.timeout p.compile s'.toWorker {}
    have hless : (p.service s).outlet.written.length < (p.service s').outlet.written.length :=
      lt_of_le_of_ne hstep.service_written.length_le fun heq =>
        hnew (hstep.service_written.eq_of_length heq).symm
    refine ((ready_begins p s).eq_of_length_le ?_).symm
    simp only [List.length_singleton]
    omega
  have hline : p.forParent s = lineOf WorkerMessage.ready.toJson := by
    rw [forParent, hready]
    exact List.append_nil _
  have hsent : (p.session s).outlet.written ≠ [] := by
    intro hnone
    obtain ⟨id, compiler, payload, rest, hreceived⟩ :=
      exists_received_of_output (fun h => hnew (h.trans hready.symm))
    obtain ⟨line, hline, hbytes, -⟩ := Stream.receive_eq_message capacity_lt hreceived
    have harrived := (hstep.arrived_extends hs).1
    rw [forWorker, hnone, hbytes] at harrived
    exact hline (List.append_eq_nil_iff.mp (List.prefix_nil.mp harrived)).1
  exact (session_of_readyLine hp (hline ▸ hs.toParent) hsent).2 hopen

/-- When the other side writes, the worker has not returned. -/
theorem Step.worker_hears (hstep : p.Step s s') (hp : p.IsProper) (hs : p.Consistent s)
    (hnew : (p.session s').outlet.written ≠ (p.session s).outlet.written) :
    ¬ p.WorkerIsDone s := by
  have hopen : s.toWorker.closed = false := by
    refine Bool.eq_false_iff.mpr fun hclosed => hnew ?_
    rw [hstep.session_eq (hs.workerStream hclosed).1]
  rcases input_begins p s with hnone | hinput
  · have harrived := hs.toWorker
    rw [forWorker, hnone] at harrived
    exact service_of_nothing hp (List.prefix_nil.mp harrived) hopen
  · have hlength : (p.session s').outlet.written.length ≤ 2 :=
      p.task.drive_length p.limit s'.toParent {}
    have hless : (p.session s).outlet.written.length < (p.session s').outlet.written.length :=
      lt_of_le_of_ne hstep.session_written.length_le fun heq =>
        hnew (hstep.session_written.eq_of_length heq).symm
    have hone : (p.session s).outlet.written = [p.input] := by
      refine (hinput.eq_of_length_le ?_).symm
      simp only [List.length_singleton]
      omega
    have hline : p.forWorker s = lineOf p.input.toJson := by
      rw [forWorker, hone]
      exact List.append_nil _
    -- without an output the step would bring no more than the first line
    refine service_of_inputLine hp (hline ▸ hs.toWorker) hopen fun hready => ?_
    have hready' : p.forParent s = lineOf WorkerMessage.ready.toJson := by
      rw [forParent, hready]
      exact List.append_nil _
    have hsession := session_of_readyLine (s := s') hp (hready' ▸ (hstep.arrived_extends hs).2)
      (fun hnone => by rw [hnone] at hless; exact absurd hless (Nat.not_lt_zero _))
    rw [hsession.1, hone] at hless
    exact absurd hless (Nat.lt_irrefl _)

end Provenance.Execution.Parties
