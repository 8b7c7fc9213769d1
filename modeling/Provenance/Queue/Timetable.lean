import Provenance.Queue.Clock

/-!
A queue whose durations are known beforehand: how long each item takes, which
items are lost with their worker, how long the handler takes over each result
and which results it refuses. The run yields a record of all that happened.
-/

namespace Provenance.Queue

structure Timetable where
  durations : List Nat
  lost : List Nat
  refused : List Nat
  handling : List Nat

structure CountingWorker where
  number : Nat
  completed : Nat

structure Delivered where
  item : WorkItem Nat
  worker : CountingWorker
  time : Nat
  waiting : Int

structure Journal where
  started : List (Nat × Nat) := []
  ended : List (Nat × Nat) := []
  delivered : List Delivered := []

namespace Timetable

/-- The worker's output is the worker as the item left it. -/
def outcome (t : Timetable) (item : WorkItem Nat) (worker : CountingWorker) :
    Outcome CountingWorker CountingWorker :=
  if t.lost.contains item.index then .lost
  else
    let worker := { worker with completed := worker.completed + 1 }
    .completed worker worker

/-- Workers that take the time an item asks for, and a handler that records. -/
def actors (t : Timetable) : Actors Nat CountingWorker CountingWorker Journal Nat where
  work time journal item worker :=
    let journal := { journal with started := journal.started ++ [(item.index, time)] }
    let outcome := t.outcome item worker
    if item.payload = 0 then (journal, .ended outcome)
    else (journal, .waiting item.payload fun journal => (journal, outcome))
  finish time journal item outcome :=
    match outcome with
    | .completed _ _ => { journal with ended := journal.ended ++ [(item.index, time)] }
    | .lost => journal
  handle time journal delivery :=
    let index := delivery.item.index
    let entry := ⟨delivery.item, delivery.output, time, delivery.waiting⟩
    ({ journal with delivered := journal.delivered ++ [entry] }, t.handling.getD index 0,
      if t.refused.contains index then some index else none)

/-- Runs the queue with the given number of workers. -/
def run (t : Timetable) (workers limit : Nat) : Finished Journal Nat :=
  process t.actors t.durations ((List.range workers).map fun k => ⟨k, 0⟩) limit {}

end Timetable

end Provenance.Queue
