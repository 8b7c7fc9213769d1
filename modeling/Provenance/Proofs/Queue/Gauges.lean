import Provenance.Proofs.Queue.Clocked

/-!
The gauges of a queue. One counts the completed items that wait for an earlier one: the
queue turns it up and down. The other counts the items that workers are at: it is part of
the world, and a guard that the task of an item holds turns it up when the work begins and
down when it ends, in whatever way. Wherever a run finds the gauges, it leaves them there
if it returns.
-/

namespace Provenance.Queue

variable {α β ω σ ε π : Type}

namespace State

def filled (s : State α β ω σ ε) : Nat := s.slots.countP Option.isSome

def Balanced (start : Int) (s : State α β ω σ ε) : Prop := s.buffered = start + s.filled

variable {start : Int} {s : State α β ω σ ε} {items : List α} {staff : Nat}
  {Good : WorkItem α → β → Prop} {item : WorkItem α} {output : β}

theorem filled_eq_zero (h : s.slots = []) : s.filled = 0 := by
  rw [filled, h, List.countP_nil]

theorem filled_of_next? (h : s.next? = some (item, output)) :
    s.filled = s.slots.tail.countP Option.isSome + 1 := by
  obtain ⟨-, slots, hslots⟩ := next?_eq_some_iff.1 h
  rw [filled, hslots, List.countP_cons, Option.isSome_some, if_pos rfl, List.tail_cons]

/-- A result in an empty slot is one more that waits. -/
theorem countP_set_slot {i : Nat} (h : s.slots[i]? = some none) (result : WorkItem α × β) :
    (s.slots.set i (some result)).countP Option.isSome = s.filled + 1 := by
  obtain ⟨hi, hslot⟩ := List.getElem?_eq_some_iff.1 h
  rw [List.countP_set hi, hslot, Option.isSome_none, Option.isSome_some, if_pos rfl,
    if_neg Bool.false_ne_true, filled]
  omega

/-- The slot of a running item is empty. -/
theorem Sound.slot_of_running (hs : s.Sound items staff Good) (hfailure : s.failure = none)
    (hitem : item ∈ s.running) : s.slots[item.index - s.head]? = some none := by
  have hahead := hs.ahead item hitem
  have hlt := (hs.running item hitem).2
  have hlength := hs.slots_length hfailure
  cases hslot : s.slots[item.index - s.head]? with
  | none =>
    have hle := List.getElem?_eq_none_iff.1 hslot
    omega
  | some slot =>
    cases slot with
    | none => rfl
    | some result =>
      obtain ⟨-, -, hothers⟩ := hs.slots_fit hfailure _ _ hslot
      have hne := hothers item hitem
      omega

namespace Balanced

/-- What is dropped is taken off the gauge. -/
theorem fail (h : s.Balanced start) (failure : Failure ε) : (s.fail failure).Balanced start := by
  unfold Balanced filled at h
  change s.buffered - (s.slots.filter Option.isSome).length = start + (0 : Nat)
  rw [← List.countP_eq_length_filter]
  omega

/-- Items that were just dispatched have empty slots. -/
theorem dispatch (h : s.Balanced start) (now : Nat) : (s.dispatch now).1.Balanced start := by
  by_cases hfailure : s.failure = none
  · obtain ⟨k, -, -, heq, -⟩ := dispatchFrom_spec now s s.pending s.idle
    have hempty : (List.replicate k (none : Option (WorkItem α × β))).countP Option.isSome = 0 := by
      rw [List.countP_replicate, Option.isSome_none, if_neg Bool.false_ne_true]
    rw [dispatch_of_no_failure hfailure, heq]
    unfold Balanced filled at h ⊢
    rwa [List.countP_append, hempty, Nat.add_zero]
  · rwa [dispatch_of_failure hfailure]

/-- The end of an item fills its slot, or drops all that wait, or comes behind a failure. -/
theorem accept (hs : s.Sound items staff Good) (h : s.Balanced start) (hitem : item ∈ s.running)
    (outcome : Outcome β ω) (endedAt : Nat) :
    (s.accept (outcome.event item.index endedAt)).Balanced start := by
  cases hfailure : s.failure with
  | some failure =>
    cases outcome with
    | lost =>
      simp only [State.accept, Outcome.event, hfailure, Option.isSome_some, if_true]
      exact h
    | completed worker output =>
      simp only [State.accept, Outcome.event, hs.running?_eq hitem, hfailure, Option.isSome_some,
        if_true]
      exact h
  | none =>
    cases outcome with
    | lost =>
      simp only [State.accept, Outcome.event, hfailure, Option.isSome_none, Bool.false_eq_true,
        if_false]
      exact fail (s := { s with running := _ }) h .workerLost
    | completed worker output =>
      have hslot := hs.slot_of_running hfailure hitem
      simp only [State.accept, Outcome.event, hs.running?_eq hitem, hfailure, Option.isSome_none,
        Bool.false_eq_true, if_false]
      unfold Balanced at h ⊢
      rw [filled, countP_set_slot hslot]
      dsimp only
      omega

/-- A result can be handed on only while the gauge stands above its start. -/
theorem le_of_next? (h : s.Balanced start) (hnext : s.next? = some (item, output)) :
    start ≤ s.buffered - 1 := by
  have hfilled := filled_of_next? hnext
  unfold Balanced at h
  omega

/-- A result that is handed on leaves its slot. -/
theorem deliverNext (h : s.Balanced start) (handle : Handler α β σ ε)
    (hnext : s.next? = some (item, output)) :
    (s.deliverNext handle item output).Balanced start := by
  have htaken (head : Nat) (world : σ) :
      Balanced start
        { s with slots := s.slots.tail, buffered := s.buffered - 1, head, world } := by
    have hfilled := filled_of_next? hnext
    unfold Balanced at h ⊢
    rw [filled]
    dsimp only
    omega
  unfold State.deliverNext
  dsimp only
  split
  · exact htaken _ _
  · exact (htaken _ _).fail _

end Balanced

end State

namespace Session

variable {crew : Crew α β ω σ π} {handle : Handler α β σ ε} {items : List α} {workers : List ω}
  {limit staff : Nat} {world : σ} {buffered : Int} {s s' : Session α β ω σ ε π}
  {Good : WorkItem α → β → Prop}

/-- The sessions that a run comes through which finds the gauge of what waits at `buffered`. -/
inductive ReachFrom (crew : Crew α β ω σ π) (handle : Handler α β σ ε) (items : List α)
    (workers : List ω) (limit : Nat) (world : σ) (buffered : Int) :
    Session α β ω σ ε π → Prop
  | start {queue : State α β ω σ ε} (progress : Nat → π)
      (hbegin : begin? items workers limit world = .ok queue) :
      ReachFrom crew handle items workers limit world buffered
        ⟨{ queue with buffered }, progress, true, []⟩
  | step {s s' : Session α β ω σ ε π}
      (hs : ReachFrom crew handle items workers limit world buffered s)
      (hstep : Step crew handle s s') :
      ReachFrom crew handle items workers limit world buffered s'

inductive ReturnsFrom (crew : Crew α β ω σ π) (handle : Handler α β σ ε) (items : List α)
    (workers : List ω) (limit : Nat) (world : σ) (buffered : Int) :
    Except (Failure ε) Unit → Int → σ → Prop
  | atOnce {result : Except (Failure ε) Unit}
      (hbegin : (begin? items workers limit world : Except _ (State α β ω σ ε)) = .error result) :
      ReturnsFrom crew handle items workers limit world buffered result buffered world
  | settled {s : Session α β ω σ ε π}
      (hs : ReachFrom crew handle items workers limit world buffered s) (hreturned : s.Returned) :
      ReturnsFrom crew handle items workers limit world buffered s.queue.result s.queue.buffered
        s.queue.world

theorem Reach.reachFrom (hs : Reach crew handle items workers limit world s) :
    ReachFrom crew handle items workers limit world 0 s := by
  induction hs with
  | start progress hbegin =>
    obtain ⟨-, rfl⟩ := eq_initial_of_begin? hbegin
    exact .start progress hbegin
  | step _ hstep ih => exact ih.step hstep

theorem ReachFrom.invariant (hs : ReachFrom crew handle items workers limit world buffered s) :
    s.Invariant items workers.length limit (fun _ _ _ => True) (fun _ _ => True)
      fun _ _ => True := by
  have hkeeps := keeps_nothing crew handle items
  induction hs with
  | start progress hbegin =>
    obtain ⟨-, rfl⟩ := eq_initial_of_begin? hbegin
    exact Invariant.begins trivial buffered progress
  | step _ hstep ih => exact ih.step hkeeps hstep

/-- The gauge counts what waits, and the handler never saw it below its start. -/
structure Counted (start : Int) (s : Session α β ω σ ε π) : Prop where
  balanced : s.queue.Balanced start
  seen : ∀ delivery ∈ s.log, start ≤ delivery.waiting

theorem Counted.step {start : Int} (hs : s.queue.Sound items staff Good) (h : s.Counted start)
    (hstep : Step crew handle s s') : s'.Counted start := by
  cases hstep with
  | move hitem hmove => exact ⟨h.balanced, h.seen⟩
  | stir hstir => exact ⟨h.balanced, h.seen⟩
  | join endedAt _ hitem _ =>
    exact ⟨State.Balanced.accept hs h.balanced hitem _ endedAt, h.seen⟩
  | deliver _ hnext =>
    constructor
    · exact h.balanced.deliverNext handle hnext
    · intro delivery hdelivery
      rcases List.mem_append.1 hdelivery with hold | hnew
      · exact h.seen delivery hold
      · obtain rfl := List.mem_singleton.1 hnew
        exact h.balanced.le_of_next? hnext
  | resume now => exact ⟨h.balanced.dispatch now, h.seen⟩

theorem ReachFrom.counted (hs : ReachFrom crew handle items workers limit world buffered s) :
    s.Counted buffered := by
  induction hs with
  | start progress hbegin =>
    obtain ⟨-, rfl⟩ := eq_initial_of_begin? hbegin
    exact ⟨(Int.add_zero buffered).symm, fun _ h => nomatch h⟩
  | step hs hstep ih => exact ih.step hs.invariant.queue hstep

/-- Where a run returns, nothing waits. -/
theorem ReachFrom.buffered_of_returned
    (hs : ReachFrom crew handle items workers limit world buffered s) (hreturned : s.Returned) :
    s.queue.buffered = buffered := by
  have hslots : s.queue.slots = [] := by
    by_cases hfailure : s.queue.failure = none
    · exact hs.invariant.slots_eq_nil hreturned hfailure
    · exact hs.invariant.queue.failed hfailure
  have hbalanced := hs.counted.balanced
  rwa [State.Balanced, State.filled_eq_zero hslots, Int.natCast_zero, Int.add_zero] at hbalanced

end Session

/-- A gauge of the world that only tasks move: each is on it while it holds a guard. -/
structure Crew.Guards (crew : Crew α β ω σ π) (handle : Handler α β σ ε) (gauge : σ → Int)
    (holds : π → Bool) : Prop where
  begins : ∀ item worker, holds (crew.begins item worker) = false
  moves : ∀ item world p world' p', crew.moves item world p world' p' →
    gauge world' + (holds p).toNat = gauge world + (holds p').toNat
  ends : ∀ item p outcome, crew.ends item p outcome → holds p = false
  stirs : ∀ world world', crew.stirs world world' → gauge world' = gauge world
  handles : ∀ world delivery, gauge (handle world delivery).1 = gauge world

namespace Session

variable {crew : Crew α β ω σ π} {handle : Handler α β σ ε} {items : List α} {workers : List ω}
  {limit staff : Nat} {world : σ} {buffered : Int} {s s' : Session α β ω σ ε π}
  {Good : WorkItem α → β → Prop} {gauge : σ → Int} {holds : π → Bool}

def guards (holds : π → Bool) (s : Session α β ω σ ε π) : Nat :=
  (s.queue.running.map WorkItem.index).countP fun index => holds (s.progress index)

/-- With one item apart, the guards are its own and those of the others. -/
theorem countP_running (hs : s.queue.Sound items staff Good) {item : WorkItem α}
    (hitem : item ∈ s.queue.running) (p : Nat → Bool) :
    (s.queue.running.map WorkItem.index).countP p =
      ((s.queue.running.filter fun other => other.index ≠ item.index).map
        WorkItem.index).countP p + (p item.index).toNat := by
  rw [(hs.perm_running hitem).countP_eq, List.countP_cons]
  cases p item.index <;> rfl

/-- Items that were just dispatched hold no guard. -/
theorem guards_dispatch (hguards : crew.Guards handle gauge holds)
    (hs : s.queue.Sound items staff Good) (now : Nat) :
    (s.dispatch crew now).guards holds = s.guards holds := by
  have hrunning : (s.dispatch crew now).queue.running =
      s.queue.running ++ (s.queue.dispatch now).2.map Prod.fst := s.queue.dispatch_running now
  have hold : (s.queue.running.map WorkItem.index).countP
      (fun index => holds ((s.dispatch crew now).progress index)) = s.guards holds := by
    apply List.countP_congr
    intro index hindex
    obtain ⟨item, hitem, rfl⟩ := List.mem_map.1 hindex
    rw [dispatch_progress_of_running hs now hitem]
  have hnew : (((s.queue.dispatch now).2.map Prod.fst).map WorkItem.index).countP
      (fun index => holds ((s.dispatch crew now).progress index)) = 0 := by
    apply List.countP_eq_zero.2
    intro index hindex
    obtain ⟨item, hitem, rfl⟩ := List.mem_map.1 hindex
    obtain ⟨⟨item, worker⟩, htask, rfl⟩ := List.mem_map.1 hitem
    rw [dispatch_progress_of_started hs now htask, hguards.begins]
    exact Bool.false_ne_true
  rw [guards, hrunning, List.map_append, List.countP_append, hold, hnew, Nat.add_zero]

def Metered (gauge : σ → Int) (holds : π → Bool) (start : Int) (s : Session α β ω σ ε π) : Prop :=
  gauge s.queue.world = start + s.guards holds

namespace Metered

variable {start : Int}

theorem dispatch (hguards : crew.Guards handle gauge holds)
    (hs : s.queue.Sound items staff Good) (h : s.Metered gauge holds start) (now : Nat) :
    (s.dispatch crew now).Metered gauge holds start := by
  have hworld : (s.dispatch crew now).queue.world = s.queue.world := s.queue.dispatch_world now
  rw [Metered, hworld, guards_dispatch hguards hs]
  exact h

/-- An item that moves takes the gauge with it. -/
theorem move (hguards : crew.Guards handle gauge holds) (hs : s.queue.Sound items staff Good)
    (h : s.Metered gauge holds start) {item : WorkItem α} {world : σ} {p : π}
    (hitem : item ∈ s.queue.running)
    (hmove : crew.moves item s.queue.world (s.progress item.index) world p) :
    Metered gauge holds start
      { s with
        queue := { s.queue with world }
        progress := Function.update s.progress item.index p } := by
  have hbefore := countP_running hs hitem fun index => holds (s.progress index)
  have hafter := countP_running hs hitem fun index =>
    holds (Function.update s.progress item.index p index)
  -- The others are where they were.
  have hothers :
      ((s.queue.running.filter fun other => other.index ≠ item.index).map WorkItem.index).countP
        (fun index => holds (Function.update s.progress item.index p index)) =
      ((s.queue.running.filter fun other => other.index ≠ item.index).map WorkItem.index).countP
        fun index => holds (s.progress index) := by
    apply List.countP_congr
    intro index hindex
    obtain ⟨other, hother, rfl⟩ := List.mem_map.1 hindex
    rw [Function.update_of_ne (of_decide_eq_true (List.mem_filter.1 hother).2)]
  rw [hothers, Function.update_self] at hafter
  have hgauge := hguards.moves _ _ _ _ _ hmove
  unfold Metered guards at h ⊢
  dsimp only
  omega

/-- An item whose end is joined held no guard any more. -/
theorem join (hguards : crew.Guards handle gauge holds) (hs : s.queue.Sound items staff Good)
    (h : s.Metered gauge holds start) {item : WorkItem α} {outcome : Outcome β ω} (endedAt : Nat)
    (hitem : item ∈ s.queue.running) (hend : crew.ends item (s.progress item.index) outcome) :
    Metered gauge holds start
      { s with
        queue := s.queue.accept (outcome.event item.index endedAt)
        flushing := true } := by
  have hcount := countP_running hs hitem fun index => holds (s.progress index)
  rw [hguards.ends _ _ _ hend, Bool.toNat_false, Nat.add_zero] at hcount
  unfold Metered guards at h ⊢
  dsimp only
  rw [State.accept_world, hs.accept_running hitem, ← hcount]
  exact h

theorem step (hguards : crew.Guards handle gauge holds) (hs : s.queue.Sound items staff Good)
    (h : s.Metered gauge holds start) (hstep : Step crew handle s s') :
    s'.Metered gauge holds start := by
  cases hstep with
  | move hitem hmove => exact h.move hguards hs hitem hmove
  | stir hstir => exact (hguards.stirs _ _ hstir).trans h
  | join endedAt _ hitem hend => exact h.join hguards hs endedAt hitem hend
  | @deliver item output _ hnext =>
    have hfailure := (State.next?_eq_some_iff.1 hnext).1
    obtain ⟨hworld, -⟩ := State.deliverNext_handled handle hfailure item output
    unfold Metered guards at h ⊢
    dsimp only
    rw [hworld, hguards.handles, State.deliverNext_running]
    exact h
  | resume now => exact h.dispatch hguards hs now

end Metered

theorem ReachFrom.metered (hguards : crew.Guards handle gauge holds)
    (hs : ReachFrom crew handle items workers limit world buffered s) :
    s.Metered gauge holds (gauge world) := by
  induction hs with
  | start progress hbegin =>
    obtain ⟨-, rfl⟩ := eq_initial_of_begin? hbegin
    exact (Int.add_zero (gauge world)).symm
  | step hs hstep ih => exact ih.step hguards hs.invariant.queue hstep

/-- Where a run returns, no item holds a guard. -/
theorem ReachFrom.gauge_of_returned (hguards : crew.Guards handle gauge holds)
    (hs : ReachFrom crew handle items workers limit world buffered s) (hreturned : s.Returned) :
    gauge s.queue.world = gauge world := by
  have hmetered := hs.metered hguards
  rwa [Metered, guards, hreturned.running_eq_nil, List.map_nil, List.countP_nil,
    Int.natCast_zero, Int.add_zero] at hmetered

end Session

structure Gauged (σ : Type) where
  inFlight : Int
  state : σ

/-- How far the task of an item has come: it is to run yet, it holds the guard while the
worker is at work, or the guard is gone. -/
inductive Guarded (β ω π : Type) where
  | spawned (worker : ω)
  | holding (p : π)
  | released (outcome : Outcome β ω)

def Guarded.isHolding : Guarded β ω π → Bool
  | .spawned _ => false
  | .holding _ => true
  | .released _ => false

/-- What the task of an item does to the world. The guard goes with the end of the work, also
where the worker is lost. -/
inductive Guarded.Moves (crew : Crew α β ω σ π) (item : WorkItem α) :
    Gauged σ → Guarded β ω π → Gauged σ → Guarded β ω π → Prop
  | acquire {world : Gauged σ} {worker : ω} :
      Moves crew item world (.spawned worker) { world with inFlight := world.inFlight + 1 }
        (.holding (crew.begins item worker))
  | work {world : Gauged σ} {state : σ} {p p' : π}
      (hmove : crew.moves item world.state p state p') :
      Moves crew item world (.holding p) { world with state } (.holding p')
  | release {world : Gauged σ} {p : π} {outcome : Outcome β ω} (hend : crew.ends item p outcome) :
      Moves crew item world (.holding p) { world with inFlight := world.inFlight - 1 }
        (.released outcome)

def Crew.guarded (crew : Crew α β ω σ π) : Crew α β ω (Gauged σ) (Guarded β ω π) where
  begins _ worker := .spawned worker
  moves := Guarded.Moves crew
  ends _ p outcome := p = .released outcome
  stirs world world' := world'.inFlight = world.inFlight ∧ crew.stirs world.state world'.state

def gauged (handle : Handler α β σ ε) : Handler α β (Gauged σ) ε := fun world delivery =>
  ({ world with state := (handle world.state delivery).1 }, (handle world.state delivery).2)

theorem Crew.guards_guarded (crew : Crew α β ω σ π) (handle : Handler α β σ ε) :
    crew.guarded.Guards (gauged handle) Gauged.inFlight Guarded.isHolding where
  begins _ _ := rfl
  moves item world p world' p' hmove := by
    cases hmove with
    | acquire => simp [Guarded.isHolding]
    | work => simp [Guarded.isHolding]
    | release => simp [Guarded.isHolding]
  ends item p outcome hend := by
    cases hend
    rfl
  stirs _ _ hstir := hstir.1
  handles _ _ := rfl

/-- On the clock nothing waits and nothing runs where a run returns. -/
theorem process_gauges (actors : Actors α β ω σ ε) (items : List α) (workers : List ω)
    (limit : Nat) (state : σ)
    (hreturns : (process actors items workers limit state).result ≠ .error .overflow) :
    (process actors items workers limit state).buffered = 0 ∧
      (process actors items workers limit state).running = 0 := by
  rcases process_settles actors items workers limit state with
    ⟨result, -, hprocess⟩ | ⟨s, hs, result, ⟨hreturned, -⟩ | ⟨-, rfl⟩, hprocess⟩
  · rw [hprocess]
    exact ⟨rfl, rfl⟩
  · rw [hprocess]
    constructor
    · exact hs.reachFrom.buffered_of_returned hreturned
    · exact List.length_eq_zero_iff.2 hreturned.running_eq_nil
  · rw [hprocess] at hreturns
    exact absurd rfl hreturns

/-- The gauges never drift, wherever a run finds them and in whatever order the tasks end.
At any time one stands above its start by the filled slots, and the other by the tasks that
hold a guard; the handler never sees the first below its start either. A run that returns,
in whatever way, leaves both where it found them; on the clock, which begins at zero, nothing
is left on them unless the program breaks off. -/
theorem gauges_never_drift (crew : Crew α β ω σ π) (handle : Handler α β σ ε) (items : List α)
    (workers : List ω) (limit : Nat) (world : σ) (buffered inFlight : Int) :
    (∀ s, Session.ReachFrom crew.guarded (gauged handle) items workers limit ⟨inFlight, world⟩
        buffered s →
      s.queue.buffered = buffered + s.queue.filled ∧ buffered ≤ s.queue.buffered ∧
      (∀ delivery ∈ s.log, buffered ≤ delivery.waiting) ∧
      s.queue.world.inFlight = inFlight + s.guards Guarded.isHolding) ∧
    (∀ result buffered' world', Session.ReturnsFrom crew.guarded (gauged handle) items workers
        limit ⟨inFlight, world⟩ buffered result buffered' world' →
      buffered' = buffered ∧ world'.inFlight = inFlight) ∧
    ∀ (actors : Actors α β ω σ ε) (state : σ),
      (process actors items workers limit state).result ≠ .error .overflow →
      (process actors items workers limit state).buffered = 0 ∧
        (process actors items workers limit state).running = 0 := by
  have hguards := crew.guards_guarded handle
  refine ⟨?_, ?_, ?_⟩
  · intro s hs
    obtain ⟨hbalanced, hseen⟩ := hs.counted
    have hle : buffered ≤ s.queue.buffered := by
      unfold State.Balanced at hbalanced
      omega
    exact ⟨hbalanced, hle, hseen, hs.metered hguards⟩
  · intro result buffered' world' hreturns
    cases hreturns with
    | atOnce hbegin => exact ⟨rfl, rfl⟩
    | settled hs hreturned =>
      exact ⟨hs.buffered_of_returned hreturned, hs.gauge_of_returned hguards hreturned⟩
  · intro actors state hreturns
    exact process_gauges actors items workers limit state hreturns

/-- The second of three items ends first and waits. Then the first result is refused, the
second is dropped, and the third item runs to its end. -/
theorem gauges_after_refusal :
    let handle : Handler Nat Nat Unit String := fun world _ => (world, some "refused")
    ∃ s, Session.ReachFrom doublers.guarded (gauged handle) [3, 5, 7] [(), ()] 1 ⟨7, ()⟩ 40 s ∧
      s.flushing = false ∧ s.queue.failure = none ∧ s.queue.buffered = 41 ∧
      ∃ buffered world, Session.ReturnsFrom doublers.guarded (gauged handle) [3, 5, 7] [(), ()] 1
        ⟨7, ()⟩ 40 (.error (.handler "refused")) buffered world ∧
        buffered = 40 ∧ world.inFlight = 7 := by
  intro handle
  have hdrift := gauges_never_drift doublers handle [3, 5, 7] [(), ()] 1 () 40 7
  have hdispatched : Session.ReachFrom doublers.guarded (gauged handle) [3, 5, 7] [(), ()] 1
      ⟨7, ()⟩ 40 _ := .step (.start (fun _ => .spawned ()) rfl) (.resume 0 rfl rfl rfl)
  have hsecond := (hdispatched.step
    (.move (List.mem_cons_of_mem _ List.mem_cons_self) .acquire)).step
    (.move (List.mem_cons_of_mem _ List.mem_cons_self) (.release rfl))
  have hwaiting := (hsecond.step
    (.join 4 rfl (List.mem_cons_of_mem _ List.mem_cons_self) rfl)).step (.resume 4 rfl rfl rfl)
  have hfirst := (hwaiting.step (.move List.mem_cons_self .acquire)).step
    (.move List.mem_cons_self (.release rfl))
  have hrefused := ((hfirst.step (.join 6 rfl List.mem_cons_self rfl)).step
    (.deliver rfl rfl)).step (.resume 6 rfl rfl rfl)
  have hthird := (hrefused.step (.move List.mem_cons_self .acquire)).step
    (.move List.mem_cons_self (.release rfl))
  have hsettled := (hthird.step (.join 9 rfl List.mem_cons_self rfl)).step
    (.resume 9 rfl rfl rfl)
  have hreturns := Session.ReturnsFrom.settled hsettled ⟨rfl, rfl⟩
  exact ⟨_, hwaiting, rfl, rfl, (hdrift.1 _ hwaiting).1, _, _, hreturns,
    hdrift.2.1 _ _ _ hreturns⟩

end Provenance.Queue
