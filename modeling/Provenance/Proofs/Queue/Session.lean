import Mathlib.Logic.Function.Basic
import Mathlib.Logic.Relation
import Provenance.Queue.Clock

/-!
Runs of the queue in which everything outside is free. Tasks move on a world
that all share and end in any order; the queue joins one ended task at a time,
hands on what can be handed on, one result after the other, and dispatches
again. Tasks may move between any two of these moves, also while the handler
is at work. The moves put together are the queue's own way of receiving an end.
Where the bound of the window is more than a word there is no dispatch: the
run stands still there and never returns.
-/

namespace Provenance.Queue

/-- How workers go about their items: a task begins, moves on the world, and
comes to an end. -/
structure Crew (α β ω σ π : Type) where
  begins : WorkItem α → ω → π
  moves : WorkItem α → σ → π → σ → π → Prop
  ends : WorkItem α → π → Outcome β ω → Prop
  stirs : σ → σ → Prop

def Outcome.event {β ω : Type} (index endedAt : Nat) : Outcome β ω → Event β ω
  | .completed worker output => .completed index endedAt worker output
  | .lost => .lost index

namespace State

variable {α β ω σ ε : Type}

def accept (s : State α β ω σ ε) : Event β ω → State α β ω σ ε
  | .lost index =>
    let s := { s with running := s.running.filter fun item => item.index ≠ index }
    if s.failure.isSome then s else s.fail .workerLost
  | .completed index endedAt worker output =>
    match s.running? index with
    | none => s
    | some item =>
      let s :=
        { s with
          running := s.running.filter fun item => item.index ≠ index
          idle := s.idle ++ [worker] }
      if s.failure.isSome then s
      else
        { s with
          buffered := s.buffered + 1
          slots := s.slots.set (index - s.head)
            (some ({ item with endedAt := some endedAt }, output)) }

def next? (s : State α β ω σ ε) : Option (WorkItem α × β) :=
  if s.failure.isSome then none else s.slots.head?.join

def deliverNext (handle : Handler α β σ ε) (s : State α β ω σ ε) (item : WorkItem α) (output : β) :
    State α β ω σ ε :=
  let s' := { s with slots := s.slots.tail, buffered := s.buffered - 1, head := s.head + 1 }
  match handle s'.world ⟨item, output, s'.buffered⟩ with
  | (world, none) => { s' with world }
  | (world, some cause) => fail { s' with world } (.handler cause)

theorem next?_eq_some_iff {s : State α β ω σ ε} {item : WorkItem α} {output : β} :
    s.next? = some (item, output) ↔
      s.failure = none ∧ ∃ slots, s.slots = some (item, output) :: slots := by
  unfold next?
  cases hf : s.failure with
  | some failure => simp
  | none =>
    cases hs : s.slots with
    | nil => simp
    | cons slot slots => cases slot <;> simp

theorem overflows_eq_true_iff {s : State α β ω σ ε} :
    s.overflows = true ↔ s.failure = none ∧ s.pending ≠ [] ∧ 2 ^ 64 ≤ s.head + s.window := by
  simp only [overflows, Bool.and_eq_true, Option.isNone_iff_eq_none, Bool.not_eq_true',
    List.isEmpty_eq_false_iff, decide_eq_true_eq, and_assoc, ne_eq]

/-- All deliveries of a flush, one by one. -/
theorem deliver_eq_of_next? {handle : Handler α β σ ε} {s : State α β ω σ ε} {item : WorkItem α}
    {output : β} (h : s.next? = some (item, output)) :
    deliver handle s s.slots = deliver handle (s.deliverNext handle item output)
      (s.deliverNext handle item output).slots := by
  obtain ⟨-, slots, hslots⟩ := next?_eq_some_iff.1 h
  rw [hslots, deliver]
  simp only [deliverNext, hslots, List.tail_cons]
  rcases handle s.world ⟨item, output, s.buffered - 1⟩ with ⟨world, _ | cause⟩
  · rfl
  · rfl

theorem deliver_eq_self {handle : Handler α β σ ε} {s : State α β ω σ ε} (h : s.next? = none)
    (hfailed : s.failure ≠ none → s.slots = []) : deliver handle s s.slots = s := by
  cases hs : s.slots with
  | nil => simp only [deliver, ← hs]
  | cons slot slots =>
    cases slot with
    | none => simp only [deliver, ← hs]
    | some result =>
      have hnone : s.failure = none := by
        by_contra hne
        simp [hfailed hne] at hs
      simp [next?, hnone, hs] at h

/-- Delivering goes by the slots that it is given. -/
theorem deliver_with_slots (handle : Handler α β σ ε) (s : State α β ω σ ε)
    (slots other : List (Option (WorkItem α × β))) :
    deliver handle { s with slots := other } slots = deliver handle s slots := by
  match slots with
  | [] => rfl
  | none :: _ => rfl
  | some _ :: _ => rfl

/-- Receiving is accepting and then delivering. -/
theorem receive_eq {handle : Handler α β σ ε} {s : State α β ω σ ε} {item : WorkItem α}
    (hitem : s.running? item.index = some item) (hfailed : s.failure ≠ none → s.slots = [])
    (outcome : Outcome β ω) (endedAt : Nat) :
    s.receive handle (outcome.event item.index endedAt) =
      deliver handle (s.accept (outcome.event item.index endedAt))
        (s.accept (outcome.event item.index endedAt)).slots := by
  cases outcome with
  | lost =>
    simp only [Outcome.event, receive, accept]
    split
    · rename_i hsome
      have hne : s.failure ≠ none := Option.isSome_iff_ne_none.1 hsome
      simp only [hfailed hne, deliver]
    · rfl
  | completed worker output =>
    simp only [Outcome.event, receive, accept, hitem]
    split
    · rename_i hsome
      have hne : s.failure ≠ none := Option.isSome_iff_ne_none.1 hsome
      simp only [hfailed hne, deliver]
    · exact (deliver_with_slots handle _ _ _).symm

end State

/-- A queue that begins has workers and is at its beginning. -/
theorem eq_initial_of_begin? {α β ω σ ε : Type} {items : List α} {workers : List ω} {limit : Nat}
    {world : σ} {queue : State α β ω σ ε} (h : begin? items workers limit world = .ok queue) :
    workers ≠ [] ∧ queue = .initial items workers limit world := by
  unfold begin? at h
  split at h
  · cases h
  · split at h
    · cases h
    · rename_i hworkers
      exact ⟨fun hnil => hworkers (List.isEmpty_iff.2 hnil), (Except.ok.inj h).symm⟩

/-- A queue that does not begin has nothing to do, or nobody to do it. -/
theorem eq_nil_of_begin? {α β ω σ ε : Type} {items : List α} {workers : List ω} {limit : Nat}
    {world : σ} {result : Except (Failure ε) Unit}
    (h : (begin? items workers limit world : Except _ (State α β ω σ ε)) = .error result) :
    items = [] ∧ result = .ok () ∨ items ≠ [] ∧ workers = [] ∧ result = .error .noWorkers := by
  unfold begin? at h
  split at h
  · rename_i hitems
    exact .inl ⟨List.isEmpty_iff.1 hitems, (Except.error.inj h).symm⟩
  · rename_i hitems
    split at h
    · rename_i hworkers
      exact .inr ⟨fun hnil => hitems (List.isEmpty_iff.2 hnil), List.isEmpty_iff.1 hworkers,
        (Except.error.inj h).symm⟩
    · cases h

/-- A queue under way, with what its tasks are at. -/
structure Session (α β ω σ ε π : Type) where
  queue : State α β ω σ ε
  /-- How far the running item of each index has come. -/
  progress : Nat → π
  /-- Whether an end was joined after the last dispatch. -/
  flushing : Bool
  log : List (Delivery α β)

namespace Session

variable {α β ω σ ε π : Type}

def enlist (crew : Crew α β ω σ π) (progress : Nat → π) (started : List (WorkItem α × ω)) :
    Nat → π := fun index =>
  match started.find? fun task => task.1.index = index with
  | some (item, worker) => crew.begins item worker
  | none => progress index

def dispatch (crew : Crew α β ω σ π) (now : Nat) (s : Session α β ω σ ε π) :
    Session α β ω σ ε π where
  queue := (s.queue.dispatch now).1
  progress := enlist crew s.progress (s.queue.dispatch now).2
  flushing := false
  log := s.log

/-- Nothing runs where the queue waits for an end: the run returns. -/
def Returned (s : Session α β ω σ ε π) : Prop :=
  s.flushing = false ∧ s.queue.isSettled = true

/-- All that could be handed on is, and the queue cannot dispatch: the run breaks off. -/
def Overflowed (s : Session α β ω σ ε π) : Prop :=
  s.flushing = true ∧ s.queue.next? = none ∧ s.queue.overflows = true

theorem Returned.running_eq_nil {s : Session α β ω σ ε π} (h : s.Returned) :
    s.queue.running = [] :=
  List.isEmpty_iff.1 h.2

/-- One move of the tasks, of the world or of the queue. -/
inductive Step (crew : Crew α β ω σ π) (handle : Handler α β σ ε) :
    Session α β ω σ ε π → Session α β ω σ ε π → Prop
  | move {s : Session α β ω σ ε π} {item : WorkItem α} {world : σ} {p : π}
      (hitem : item ∈ s.queue.running)
      (hmove : crew.moves item s.queue.world (s.progress item.index) world p) :
      Step crew handle s
        { s with
          queue := { s.queue with world }
          progress := Function.update s.progress item.index p }
  | stir {s : Session α β ω σ ε π} {world : σ} (hstir : crew.stirs s.queue.world world) :
      Step crew handle s { s with queue := { s.queue with world } }
  | join {s : Session α β ω σ ε π} {item : WorkItem α} {outcome : Outcome β ω} (endedAt : Nat)
      (hwait : s.flushing = false) (hitem : item ∈ s.queue.running)
      (hend : crew.ends item (s.progress item.index) outcome) :
      Step crew handle s
        { s with
          queue := s.queue.accept (outcome.event item.index endedAt)
          flushing := true }
  | deliver {s : Session α β ω σ ε π} {item : WorkItem α} {output : β}
      (hflush : s.flushing = true) (hnext : s.queue.next? = some (item, output)) :
      Step crew handle s
        { s with
          queue := s.queue.deliverNext handle item output
          log := s.log ++ [⟨item, output, s.queue.buffered - 1⟩] }
  | resume {s : Session α β ω σ ε π} (now : Nat) (hflush : s.flushing = true)
      (hnext : s.queue.next? = none) (hfits : s.queue.overflows = false) :
      Step crew handle s (s.dispatch crew now)

inductive Reach (crew : Crew α β ω σ π) (handle : Handler α β σ ε) (items : List α)
    (workers : List ω) (limit : Nat) (world : σ) : Session α β ω σ ε π → Prop
  | start {queue : State α β ω σ ε} (progress : Nat → π)
      (hbegin : begin? items workers limit world = .ok queue) :
      Reach crew handle items workers limit world ⟨queue, progress, true, []⟩
  | step {s s' : Session α β ω σ ε π} (hs : Reach crew handle items workers limit world s)
      (hstep : Step crew handle s s') : Reach crew handle items workers limit world s'

end Session

end Provenance.Queue
