import Provenance.Proofs.Queue.Soundness

/-!
The induction over runs. Something may be kept of the world, depending on what
was delivered and on whether the queue has failed; something may be kept of
each task; and both together are to make the outputs good. Then all of it holds
in every session that a run comes through, next to the soundness of the queue.
-/

namespace Provenance.Queue

variable {α β ω σ ε π : Type}

structure Keeps (crew : Crew α β ω σ π) (handle : Handler α β σ ε) (items : List α)
    (Kept : List (Delivery α β) → Option (Failure ε) → σ → Prop)
    (OnTrack : WorkItem α → π → Prop) (Good : WorkItem α → β → Prop) : Prop where
  begins : ∀ item worker, item.Started items → OnTrack item (crew.begins item worker)
  moves : ∀ log failure world item p world' p', Kept log failure world → item.Started items →
    log.length ≤ item.index → OnTrack item p → crew.moves item world p world' p' →
    Kept log failure world' ∧ OnTrack item p'
  stirs : ∀ log failure world world', Kept log failure world → crew.stirs world world' →
    Kept log failure world'
  completes : ∀ item p worker output endedAt, item.Started items → OnTrack item p →
    crew.ends item p (.completed worker output) → Good { item with endedAt := some endedAt } output
  loses : ∀ log world item p, Kept log none world → item.Started items → OnTrack item p →
    crew.ends item p .lost → Kept log (some .workerLost) world
  delivers : ∀ log world item output waiting, Kept log none world → item.index = log.length →
    Good item output → Kept (log ++ [⟨item, output, waiting⟩])
      ((handle world ⟨item, output, waiting⟩).2.map .handler)
      (handle world ⟨item, output, waiting⟩).1

namespace Session

variable {crew : Crew α β ω σ π} {handle : Handler α β σ ε} {items : List α}
  {Kept : List (Delivery α β) → Option (Failure ε) → σ → Prop}
  {OnTrack : WorkItem α → π → Prop} {Good : WorkItem α → β → Prop}

theorem enlist_of_forall_ne (crew : Crew α β ω σ π) (progress : Nat → π)
    {started : List (WorkItem α × ω)} {index : Nat} (h : ∀ task ∈ started, task.1.index ≠ index) :
    enlist crew progress started index = progress index := by
  have hnone : (started.find? fun task => task.1.index = index) = none :=
    List.find?_eq_none.2 fun task htask => by simpa using h task htask
  simp only [enlist, hnone]

/-- A task that was started is at its beginning. -/
theorem enlist_of_mem (crew : Crew α β ω σ π) (progress : Nat → π)
    {started : List (WorkItem α × ω)} (hdistinct : (started.map fun task => task.1.index).Nodup)
    {item : WorkItem α} {worker : ω} (h : (item, worker) ∈ started) :
    enlist crew progress started item.index = crew.begins item worker := by
  have hfound := find?_key_eq_some (fun task : WorkItem α × ω => task.1.index) hdistinct h
  simp only [enlist, hfound]

/-- A dispatch leaves alone the tasks that were there. -/
theorem dispatch_progress_of_running {s : Session α β ω σ ε π} {staff : Nat}
    (hs : s.queue.Sound items staff Good) (now : Nat) {item : WorkItem α}
    (hitem : item ∈ s.queue.running) :
    (s.dispatch crew now).progress item.index = s.progress item.index := by
  have hdistinct := (hs.dispatch now).distinct
  rw [State.dispatch_running, List.map_append, List.nodup_append] at hdistinct
  obtain ⟨-, -, hapart⟩ := hdistinct
  refine enlist_of_forall_ne crew s.progress fun task htask => ?_
  have hmem := List.mem_map_of_mem (f := WorkItem.index) (List.mem_map_of_mem (f := Prod.fst) htask)
  exact (hapart item.index (List.mem_map_of_mem hitem) task.1.index hmem).symm

/-- The tasks that a dispatch adds are at their beginning. -/
theorem dispatch_progress_of_started {s : Session α β ω σ ε π} {staff : Nat}
    (hs : s.queue.Sound items staff Good) (now : Nat) {item : WorkItem α} {worker : ω}
    (htask : (item, worker) ∈ (s.queue.dispatch now).2) :
    (s.dispatch crew now).progress item.index = crew.begins item worker := by
  have hdistinct := (hs.dispatch now).distinct
  rw [State.dispatch_running, List.map_append, List.nodup_append, List.map_map] at hdistinct
  exact enlist_of_mem crew s.progress hdistinct.2.1 htask

structure Invariant (items : List α) (staff limit : Nat)
    (Kept : List (Delivery α β) → Option (Failure ε) → σ → Prop)
    (OnTrack : WorkItem α → π → Prop) (Good : WorkItem α → β → Prop)
    (s : Session α β ω σ ε π) : Prop where
  queue : s.queue.Sound items staff Good
  window : s.queue.window = staff + limit
  logged : (s.log.map fun delivery => delivery.item.index) = List.range s.queue.head
  good : ∀ delivery ∈ s.log, Good delivery.item delivery.output
  onTrack : ∀ item ∈ s.queue.running, OnTrack item (s.progress item.index)
  kept : Kept s.log s.queue.failure s.queue.world
  /-- While the queue waits for an end, all that could be done is done. -/
  waits : s.flushing = false → s.queue.failure = none →
    s.queue.next? = none ∧ s.queue.Exhausted

namespace Invariant

variable {staff limit : Nat} {s : Session α β ω σ ε π}

theorem length_log (hs : s.Invariant items staff limit Kept OnTrack Good) :
    s.log.length = s.queue.head := by
  have := congrArg List.length hs.logged
  simpa using this

/-- Tasks after a dispatch are as they were or at their beginning. -/
theorem onTrack_dispatch (hkeeps : Keeps crew handle items Kept OnTrack Good)
    (hs : s.Invariant items staff limit Kept OnTrack Good) (now : Nat) :
    ∀ item ∈ (s.dispatch crew now).queue.running,
      OnTrack item ((s.dispatch crew now).progress item.index) := by
  intro item hitem
  have hitem' := hitem
  rw [Session.dispatch, State.dispatch_running] at hitem'
  rcases List.mem_append.1 hitem' with hold | hnew
  · rw [dispatch_progress_of_running hs.queue now hold]
    exact hs.onTrack item hold
  · obtain ⟨⟨item, worker⟩, htask, rfl⟩ := List.mem_map.1 hnew
    rw [dispatch_progress_of_started hs.queue now htask]
    exact hkeeps.begins item worker ((hs.queue.dispatch now).running item hitem).1

theorem dispatch (hkeeps : Keeps crew handle items Kept OnTrack Good)
    (hs : s.Invariant items staff limit Kept OnTrack Good) (now : Nat)
    (hnext : s.queue.next? = none) :
    (s.dispatch crew now).Invariant items staff limit Kept OnTrack Good := by
  refine ⟨hs.queue.dispatch now, ?_, ?_, hs.good, hs.onTrack_dispatch hkeeps now, ?_, ?_⟩
  · exact (s.queue.dispatch_window now).trans hs.window
  · exact hs.logged.trans (by rw [Session.dispatch, State.dispatch_head])
  · change Kept s.log (s.queue.dispatch now).1.failure (s.queue.dispatch now).1.world
    rw [State.dispatch_failure, State.dispatch_world]
    exact hs.kept
  · intro _ hfailure
    have hfailure' : s.queue.failure = none := (s.queue.dispatch_failure now).symm.trans hfailure
    exact ⟨State.next?_dispatch hnext now, State.exhausted_dispatch hfailure' now⟩

theorem move (hkeeps : Keeps crew handle items Kept OnTrack Good)
    (hs : s.Invariant items staff limit Kept OnTrack Good) {item : WorkItem α} {world : σ} {p : π}
    (hitem : item ∈ s.queue.running)
    (hmove : crew.moves item s.queue.world (s.progress item.index) world p) :
    Invariant items staff limit Kept OnTrack Good
      { s with
        queue := { s.queue with world }
        progress := Function.update s.progress item.index p } := by
  have hstarted := (hs.queue.running item hitem).1
  have hahead : s.log.length ≤ item.index := hs.length_log ▸ hs.queue.ahead item hitem
  obtain ⟨hkept, htrack⟩ := hkeeps.moves _ _ _ _ _ _ _ hs.kept hstarted hahead
    (hs.onTrack item hitem) hmove
  refine ⟨hs.queue.setWorld world, hs.window, hs.logged, hs.good, ?_, hkept, hs.waits⟩
  intro other hother
  by_cases hindex : other.index = item.index
  · obtain rfl := List.inj_on_of_nodup_map hs.queue.distinct hother hitem hindex
    simpa using htrack
  · simpa [Function.update_of_ne hindex] using hs.onTrack other hother

theorem join (hkeeps : Keeps crew handle items Kept OnTrack Good)
    (hs : s.Invariant items staff limit Kept OnTrack Good) {item : WorkItem α}
    {outcome : Outcome β ω} (endedAt : Nat) (hitem : item ∈ s.queue.running)
    (hend : crew.ends item (s.progress item.index) outcome) :
    Invariant items staff limit Kept OnTrack Good
      { s with
        queue := s.queue.accept (outcome.event item.index endedAt)
        flushing := true } := by
  have hstarted := (hs.queue.running item hitem).1
  have htrack := hs.onTrack item hitem
  refine ⟨hs.queue.accept hitem endedAt ?_, ?_, ?_, hs.good, ?_, ?_, ?_⟩
  · rintro worker output rfl
    exact hkeeps.completes _ _ _ _ endedAt hstarted htrack hend
  · exact (State.accept_window _ _).trans hs.window
  · exact hs.logged.trans (by rw [State.accept_head])
  · exact fun other hother => hs.onTrack other (State.mem_running_of_mem_accept hother)
  · change Kept s.log (s.queue.accept _).failure (s.queue.accept _).world
    rw [State.accept_world]
    cases outcome with
    | completed worker output =>
      rw [Outcome.event, State.accept_failure_completed]
      exact hs.kept
    | lost =>
      rw [Outcome.event, State.accept_failure_lost]
      have hkept := hs.kept
      cases hfailure : s.queue.failure with
      | some failure =>
        rw [hfailure] at hkept
        exact hkept
      | none =>
        rw [hfailure] at hkept
        exact hkeeps.loses _ _ _ _ hkept hstarted htrack hend
  · intro h
    cases h

theorem deliver (hkeeps : Keeps crew handle items Kept OnTrack Good)
    (hs : s.Invariant items staff limit Kept OnTrack Good) {item : WorkItem α} {output : β}
    (hflush : s.flushing = true) (hnext : s.queue.next? = some (item, output)) :
    Invariant items staff limit Kept OnTrack Good
      { s with
        queue := s.queue.deliverNext handle item output
        log := s.log ++ [⟨item, output, s.queue.buffered - 1⟩] } := by
  obtain ⟨hindex, hgood, -⟩ := hs.queue.next hnext
  have hfailure := (State.next?_eq_some_iff.1 hnext).1
  obtain ⟨hworld, hfailed⟩ := State.deliverNext_handled handle hfailure item output
  refine ⟨hs.queue.deliverNext hnext, ?_, ?_, ?_, ?_, ?_, ?_⟩
  · exact (State.deliverNext_window _ _ _ _).trans hs.window
  · rw [List.map_append, hs.logged, State.deliverNext_head, List.range_succ, ← hindex]
    rfl
  · intro delivery hdelivery
    rcases List.mem_append.1 hdelivery with hold | hnew
    · exact hs.good delivery hold
    · obtain rfl := List.mem_singleton.1 hnew
      exact hgood
  · intro other hother
    rw [State.deliverNext_running] at hother
    exact hs.onTrack other hother
  · dsimp only
    rw [hworld, hfailed]
    have hkept := hs.kept
    rw [hfailure] at hkept
    exact hkeeps.delivers _ _ _ _ _ hkept (hindex.trans hs.length_log.symm) hgood
  · exact fun h => absurd (hflush.symm.trans h) (by decide)

theorem step (hkeeps : Keeps crew handle items Kept OnTrack Good)
    (hs : s.Invariant items staff limit Kept OnTrack Good) {s' : Session α β ω σ ε π}
    (hstep : Step crew handle s s') : s'.Invariant items staff limit Kept OnTrack Good := by
  cases hstep with
  | move hitem hmove => exact hs.move hkeeps hitem hmove
  | stir hstir =>
    exact ⟨hs.queue.setWorld _, hs.window, hs.logged, hs.good, hs.onTrack,
      hkeeps.stirs _ _ _ _ hs.kept hstir, hs.waits⟩
  | join endedAt _ hitem hend => exact hs.join hkeeps endedAt hitem hend
  | deliver hflush hnext => exact hs.deliver hkeeps hflush hnext
  | resume now _ hnext _ => exact hs.dispatch hkeeps now hnext

/-- A queue before its first move, wherever its gauge stands. -/
theorem begins {workers : List ω} {limit : Nat} {world : σ} (hkept : Kept [] none world)
    (buffered : Int) (progress : Nat → π) :
    Invariant items workers.length limit Kept OnTrack Good
      ⟨{ State.initial items workers limit world with buffered }, progress, true, []⟩ := by
  have hsound : (State.initial items workers limit world : State α β ω σ ε).Sound items
      workers.length Good := .initial items workers limit world Good
  refine ⟨hsound.setBuffered buffered, rfl, rfl, ?_, ?_, hkept, ?_⟩
  · exact fun _ h => nomatch h
  · exact fun _ h => nomatch h
  · exact fun h => nomatch h

end Invariant

/-- The invariant holds in every session that a run comes through. -/
theorem Reach.invariant {workers : List ω} {limit : Nat} {world : σ}
    (hkeeps : Keeps crew handle items Kept OnTrack Good) (hkept : Kept [] none world)
    {s : Session α β ω σ ε π} (hs : Reach crew handle items workers limit world s) :
    s.Invariant items workers.length limit Kept OnTrack Good := by
  induction hs with
  | start progress hbegin =>
    obtain ⟨-, rfl⟩ := eq_initial_of_begin? hbegin
    exact Invariant.begins hkept 0 progress
  | step _ hstep ih => exact ih.step hkeeps hstep

/-- While the queue waits for an end, the window ends within the words. -/
theorem Reach.fits {workers : List ω} {limit : Nat} {world : σ} {s : Session α β ω σ ε π}
    (hs : Reach crew handle items workers limit world s) (hwait : s.flushing = false) :
    s.queue.overflows = false := by
  induction hs with
  | start => cases hwait
  | step _ hstep ih =>
    cases hstep with
    | move => exact ih hwait
    | stir => exact ih hwait
    | join => cases hwait
    | deliver hflush => cases hflush.symm.trans hwait
    | resume now _ _ hfits => exact State.overflows_dispatch hfits now

end Session

end Provenance.Queue
