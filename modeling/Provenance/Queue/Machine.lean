import Provenance.Number.Power

/-!
The ordered work queue. Workers take items in order and finish them in any
order; results are handed on strictly in the order of the items. The queue is a
machine: `dispatch` gives items to idle workers as far as the window ahead of
the oldest undelivered item allows, and `receive` takes the end of one running
item. Whatever chooses the next end, a clock or an adversary, is outside. Counts
are words of sixty-four bits. Where the bound of the window is not one, the
program breaks off instead of dispatching, so `overflows` is asked before `dispatch`.
-/

namespace Provenance.Queue

structure WorkItem (α : Type) where
  index : Nat
  total : Nat
  payload : α
  startedAt : Nat
  endedAt : Option Nat

namespace WorkItem

variable {α : Type}

def isDone (item : WorkItem α) : Bool := item.endedAt.isSome

def elapsed? (item : WorkItem α) : Option Nat := item.endedAt.map (· - item.startedAt)

end WorkItem

/-- What ends the queue early. An overflow is not returned: the program breaks off. -/
inductive Failure (ε : Type) where
  | noWorkers
  | handler (cause : ε)
  | workerLost
  | overflow
  deriving DecidableEq, Repr

def Failure.message {ε : Type} (text : ε → String) : Failure ε → String
  | .noWorkers => "no workers provided"
  | .handler cause => "result handler failed: " ++ text cause
  | .workerLost => "worker task failed"
  | .overflow => "attempt to add with overflow"

/-- A result on its way to the handler, and how many completed ones wait behind
it. -/
structure Delivery (α β : Type) where
  item : WorkItem α
  output : β
  waiting : Int

/-- The end of a running item: its worker comes back with an output, or is lost. -/
inductive Event (β ω : Type) where
  | completed (index : Nat) (endedAt : Nat) (worker : ω) (output : β)
  | lost (index : Nat)

structure State (α β ω σ ε : Type) where
  /-- How far ahead of the oldest undelivered item others may be dispatched. -/
  window : Nat
  total : Nat
  /-- Items not yet dispatched, with their indices. -/
  pending : List (Nat × α)
  idle : List ω
  running : List (WorkItem α)
  /-- Slot `i` is for item `head + i`; it is filled when the item completes. -/
  slots : List (Option (WorkItem α × β))
  head : Nat
  failure : Option (Failure ε)
  /-- The gauge of completed items that wait for an earlier one. -/
  buffered : Int
  world : σ

/-- The handler of results acts on the world and may fail. -/
abbrev Handler (α β σ ε : Type) := σ → Delivery α β → σ × Option ε

namespace State

variable {α β ω σ ε : Type}

/-- A queue before its first move. -/
def initial (items : List α) (workers : List ω) (limit : Nat) (world : σ) :
    State α β ω σ ε where
  window := workers.length + limit
  total := items.length
  pending := items.zipIdx.map fun (payload, index) => (index, payload)
  idle := workers
  running := []
  slots := []
  head := 0
  failure := none
  buffered := 0
  world := world

def admits (s : State α β ω σ ε) (index : Nat) : Bool := index < s.head + s.window

/-- Whether an index is to be compared with the bound of the window and the bound
is more than a word. Before the first move it is the width of the window itself. -/
def overflows (s : State α β ω σ ε) : Bool :=
  s.failure.isNone && !s.pending.isEmpty && 2 ^ 64 ≤ s.head + s.window

/-- Dispatches pending items at the time `now`, each with an idle worker, until
the window, the workers or the items are exhausted. -/
def dispatchFrom (now : Nat) (s : State α β ω σ ε) :
    List (Nat × α) → List ω → State α β ω σ ε × List (WorkItem α × ω)
  | (index, payload) :: pending, worker :: idle =>
    if s.admits index then
      let item : WorkItem α := ⟨index, s.total, payload, now, none⟩
      let s' := { s with running := s.running ++ [item], slots := s.slots ++ [none] }
      let (s'', started) := dispatchFrom now s' pending idle
      (s'', (item, worker) :: started)
    else ({ s with pending := (index, payload) :: pending, idle := worker :: idle }, [])
  | pending, idle => ({ s with pending, idle }, [])

/-- Dispatches what can be dispatched; after a failure nothing is. -/
def dispatch (now : Nat) (s : State α β ω σ ε) : State α β ω σ ε × List (WorkItem α × ω) :=
  if s.failure.isSome then (s, []) else dispatchFrom now s s.pending s.idle

def fail (s : State α β ω σ ε) (failure : Failure ε) : State α β ω σ ε :=
  { s with
    slots := []
    buffered := s.buffered - (s.slots.filter Option.isSome).length
    failure := some failure }

/-- Delivers completed items from the oldest slot onward, until a slot is empty
or the handler fails. -/
def deliver (handle : Handler α β σ ε) (s : State α β ω σ ε) :
    List (Option (WorkItem α × β)) → State α β ω σ ε
  | some (item, output) :: slots =>
    let s' := { s with slots, buffered := s.buffered - 1, head := s.head + 1 }
    match handle s'.world ⟨item, output, s'.buffered⟩ with
    | (world, none) => deliver handle { s' with world } slots
    | (world, some cause) => fail { s' with world } (.handler cause)
  | slots => { s with slots }

def running? (s : State α β ω σ ε) (index : Nat) : Option (WorkItem α) :=
  s.running.find? fun item => item.index = index

/-- Takes the end of a running item. After a failure, outputs are dropped. -/
def receive (handle : Handler α β σ ε) (s : State α β ω σ ε) (event : Event β ω) :
    State α β ω σ ε :=
  match event with
  | .lost index =>
    let s := { s with running := s.running.filter fun item => item.index ≠ index }
    if s.failure.isSome then s else s.fail .workerLost
  | .completed index endedAt worker output =>
    match s.running? index with
    | none => s
    | some item =>
      let s :=
        { s with
          running := s.running.filter fun item => item.index ≠ index
          idle := s.idle ++ [worker] }
      if s.failure.isSome then s
      else
        let done := ({ item with endedAt := some endedAt }, output)
        let slots := s.slots.set (index - s.head) (some done)
        deliver handle { s with buffered := s.buffered + 1 } slots

def isSettled (s : State α β ω σ ε) : Bool := s.running.isEmpty

def result (s : State α β ω σ ε) : Except (Failure ε) Unit :=
  match s.failure with
  | some failure => .error failure
  | none => .ok ()

end State

def begin? {α β ω σ ε : Type} (items : List α) (workers : List ω) (limit : Nat) (world : σ) :
    Except (Except (Failure ε) Unit) (State α β ω σ ε) :=
  if items.isEmpty then .error (.ok ())
  else if workers.isEmpty then .error (.error .noWorkers)
  else .ok (.initial items workers limit world)

end Provenance.Queue
