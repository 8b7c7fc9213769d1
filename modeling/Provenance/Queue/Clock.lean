import Provenance.Queue.Machine

/-!
A queue on a virtual clock. Time stands still while anything can move and then
jumps to the next deadline. A dispatched item begins when the queue has nothing
to receive; it either ends at once or waits once and then ends. The handler may
take time too, during which running items go on.
-/

namespace Provenance.Queue

inductive Outcome (β ω : Type) where
  | completed (worker : ω) (output : β)
  | lost

/-- What a worker does with an item: it ends at once, or after a wait. -/
inductive Activity (β ω σ : Type) where
  | ended (outcome : Outcome β ω)
  | waiting (duration : Nat) (resume : σ → σ × Outcome β ω)

structure Timed (σ : Type) where
  now : Nat
  state : σ

/-- The two sides of a queue: what workers do from the time an item starts, and
what the handler does, with the time it takes. -/
structure Actors (α β ω σ ε : Type) where
  work : Nat → σ → WorkItem α → ω → σ × Activity β ω σ
  finish : Nat → σ → WorkItem α → Outcome β ω → σ
  handle : Nat → σ → Delivery α β → σ × Nat × Option ε

structure Sleeper (α β ω σ : Type) where
  deadline : Nat
  item : WorkItem α
  resume : σ → σ × Outcome β ω

structure Run (α β ω σ ε : Type) where
  queue : State α β ω (Timed σ) ε
  unstarted : List (WorkItem α × ω)
  sleeping : List (Sleeper α β ω σ)
  /-- Ends that the queue has not received, in the order in which they happened. -/
  ready : List (Event β ω)

namespace Run

variable {α β ω σ ε : Type}

def now (r : Run α β ω σ ε) : Nat := r.queue.world.now

def setWorld (r : Run α β ω σ ε) (now : Nat) (state : σ) : Run α β ω σ ε :=
  { r with queue := { r.queue with world := ⟨now, state⟩ } }

/-- The handler as the queue calls it: its time passes on the clock. -/
def handler (actors : Actors α β ω σ ε) : Handler α β (Timed σ) ε := fun world delivery =>
  let (state, duration, failure) := actors.handle world.now world.state delivery
  (⟨world.now + duration, state⟩, failure)

def conclude (actors : Actors α β ω σ ε) (r : Run α β ω σ ε) (time : Nat) (item : WorkItem α)
    (outcome : Outcome β ω) : Run α β ω σ ε :=
  let state := actors.finish time r.queue.world.state item outcome
  let event := match outcome with
    | .completed worker output => Event.completed item.index time worker output
    | .lost => Event.lost item.index
  { r.setWorld r.now state with ready := r.ready ++ [event] }

/-- Begins every dispatched item, at the time of its dispatch. -/
def startAll (actors : Actors α β ω σ ε) (r : Run α β ω σ ε) : Run α β ω σ ε :=
  r.unstarted.foldl (fun r (item, worker) =>
    let (state, activity) := actors.work item.startedAt r.queue.world.state item worker
    let r := r.setWorld r.now state
    match activity with
    | .ended outcome => r.conclude actors item.startedAt item outcome
    | .waiting duration resume =>
      { r with sleeping := r.sleeping ++ [⟨item.startedAt + duration, item, resume⟩] })
    { r with unstarted := [] }

/-- The sleeper with the earliest deadline, the first of several, and the others. -/
def earliest? : List (Sleeper α β ω σ) → Option (Sleeper α β ω σ × List (Sleeper α β ω σ))
  | [] => none
  | s :: rest =>
    match earliest? rest with
    | none => some (s, [])
    | some (t, others) => if t.deadline < s.deadline then some (t, s :: others) else some (s, rest)

/-- Wakes the sleepers whose deadline is not after `time`, earliest first. -/
def wakeUntil (actors : Actors α β ω σ ε) (time : Nat) (r : Run α β ω σ ε) :
    Nat → Run α β ω σ ε
  | 0 => r
  | fuel + 1 =>
    match earliest? r.sleeping with
    | some (s, others) =>
      if s.deadline ≤ time then
        let (state, outcome) := s.resume r.queue.world.state
        let r := { r.setWorld r.now state with sleeping := others }
        wakeUntil actors time (r.conclude actors s.deadline s.item outcome) fuel
      else r
    | none => r

/-- Goes on where the queue has nothing to receive: items begin, and if none
ends at once the clock jumps to the next deadline. -/
def idleStep (actors : Actors α β ω σ ε) (r : Run α β ω σ ε) : Run α β ω σ ε :=
  let r := r.startAll actors
  if r.ready.isEmpty then
    match earliest? r.sleeping with
    | some (s, _) =>
      let r := r.setWorld s.deadline r.queue.world.state
      r.wakeUntil actors s.deadline r.sleeping.length
    | none => r
  else r

/-- Receives one end. If the handler took time, other items went on meanwhile. -/
def receiveStep (actors : Actors α β ω σ ε) (r : Run α β ω σ ε) (event : Event β ω)
    (later : List (Event β ω)) : Run α β ω σ ε :=
  let before := r.now
  let r := { r with queue := r.queue.receive (handler actors) event, ready := later }
  if before < r.now then
    let r := r.startAll actors
    r.wakeUntil actors r.now r.sleeping.length
  else r

/-- Runs until nothing is left to receive, or the window overflows. Every round
receives an end, begins items or ends waits, so three rounds for each item are
enough. -/
def loop (actors : Actors α β ω σ ε) (r : Run α β ω σ ε) : Nat → Run α β ω σ ε
  | 0 => r
  | fuel + 1 =>
    if r.queue.overflows then r
    else
      let (queue, started) := r.queue.dispatch r.now
      let r := { r with queue, unstarted := r.unstarted ++ started }
      if r.queue.isSettled then r
      else
        match r.ready with
        | event :: later => loop actors (r.receiveStep actors event later) fuel
        | [] => loop actors (r.idleStep actors) fuel

def result (r : Run α β ω σ ε) : Except (Failure ε) Unit :=
  if r.queue.overflows then .error .overflow else r.queue.result

end Run

structure Finished (σ ε : Type) where
  result : Except (Failure ε) Unit
  now : Nat
  state : σ
  buffered : Int
  running : Nat

/-- Processes items from time zero. -/
def process {α β ω σ ε : Type} (actors : Actors α β ω σ ε) (items : List α) (workers : List ω)
    (limit : Nat) (state : σ) : Finished σ ε :=
  match begin? items workers limit (⟨0, state⟩ : Timed σ) with
  | .error result => ⟨result, 0, state, 0, 0⟩
  | .ok queue =>
    let r := Run.loop actors ⟨queue, [], [], []⟩ (3 * items.length + 3)
    ⟨r.result, r.now, r.queue.world.state, r.queue.buffered, r.queue.running.length⟩

end Provenance.Queue
