import Provenance.Execution.Stream

/-!
The side that gives a worker its work. It waits until the worker is ready, sends
one input, takes the output with the same number and asks the worker to stop.
Nothing is written before the worker is ready, and the worker is told to stop
only after a good output.
-/

namespace Provenance.Execution

/-- One side of a conversation: what it has written, and its result when it is
done. -/
structure Session (μ α : Type) where
  outlet : Outlet μ
  result : Option (Except Fault α)

structure Task where
  id : Nat
  compiler : String
  payload : Json

namespace Task

def awaitOutput (task : Task) (limit : Nat) (incoming : Stream) (outlet : Outlet ParentMessage) :
    Session ParentMessage Json :=
  match incoming.receive WorkerMessage.decode limit with
  | .nothing => ⟨outlet, none⟩
  | .failed cause => ⟨outlet, some (.error cause)⟩
  | .ended => ⟨outlet, some (.error (.breach .exitedBeforeOutput))⟩
  | .message (.output id result) _ =>
    if id = task.id then
      ⟨(outlet.write .shutdown).toOption.getD outlet, some (.ok result)⟩
    else ⟨outlet, some (.error (.breach (.wrongId task.id id)))⟩
  | .message message _ => ⟨outlet, some (.error (.breach (.notOutput message)))⟩

def drive (task : Task) (limit : Nat) (incoming : Stream) (outlet : Outlet ParentMessage) :
    Session ParentMessage Json :=
  match incoming.receive WorkerMessage.decode limit with
  | .nothing => ⟨outlet, none⟩
  | .failed cause => ⟨outlet, some (.error cause)⟩
  | .ended => ⟨outlet, some (.error (.breach .exitedBeforeReady))⟩
  | .message .ready rest =>
    match outlet.write (.input task.id task.compiler task.payload) with
    | .error cause => ⟨outlet, some (.error cause)⟩
    | .ok outlet => task.awaitOutput limit rest outlet
  | .message message _ => ⟨outlet, some (.error (.breach (.notReady message)))⟩

end Task

/-!
The worker's side: it says that it is ready, compiles the one input that it is
given and sends the output back. It waits for its input, and afterwards for the
end of the conversation, no longer than a given time.
-/

def inputTimeout : Duration := .ofSeconds 30

/-- The worker's side of a conversation with the time it spent waiting. -/
structure Service where
  outlet : Outlet WorkerMessage
  waited : Duration
  result : Except Fault Unit

/-- Compiles one input: the file of the compiler and the payload. -/
abbrev Compile := String → Json → Except Fault Json

/-- Sends the output and waits for the end; whatever comes then counts as one. -/
def answer (id : Nat) (result : Json) (timeout : Duration) (incoming : Stream)
    (outlet : Outlet WorkerMessage) : Service :=
  match outlet.write (.output id result) with
  | .error cause => ⟨outlet, ⟨0⟩, .error cause⟩
  | .ok outlet =>
    match incoming.receive ParentMessage.decode Limits.standard.maxOutput with
    | .nothing => ⟨outlet, timeout, .ok ()⟩
    | _ => ⟨outlet, ⟨0⟩, .ok ()⟩

/-- Serves one compilation with a compiler that acts in `m`, given all that comes
from the other side. -/
def serveIn {m : Type → Type} [Monad m] (timeout : Duration)
    (compile : String → Json → m (Except Fault Json)) (incoming : Stream)
    (outlet : Outlet WorkerMessage) : m Service :=
  match outlet.write .ready with
  | .error cause => pure ⟨outlet, ⟨0⟩, .error cause⟩
  | .ok outlet =>
    match incoming.receive ParentMessage.decode Limits.standard.maxOutput with
    | .nothing => pure ⟨outlet, timeout, .error (.breach (.noInput timeout))⟩
    | .failed cause => pure ⟨outlet, ⟨0⟩, .error cause⟩
    | .ended => pure ⟨outlet, ⟨0⟩, .error (.breach .closedBeforeInput)⟩
    | .message .shutdown _ => pure ⟨outlet, ⟨0⟩, .ok ()⟩
    | .message (.input id compiler payload) rest => do
      match ← compile compiler payload with
      | .error cause => pure ⟨outlet, ⟨0⟩, .error cause⟩
      | .ok result => pure (answer id result timeout rest outlet)

def serve (timeout : Duration) (compile : Compile) (incoming : Stream)
    (outlet : Outlet WorkerMessage) : Service :=
  Id.run (serveIn timeout (fun compiler payload => pure (compile compiler payload)) incoming outlet)

end Provenance.Execution
