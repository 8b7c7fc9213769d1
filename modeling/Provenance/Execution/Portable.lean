import Provenance.Execution.Process
import Provenance.Execution.Handshake
import Provenance.Number.Unsigned

/-!
Portable compilers. A worker process of their own compiles one input; the limits
reach it through its variables. The worker is this program itself unless another
one is named, and evaluates the compiler with a runtime for its language.
-/

namespace Provenance.Execution

structure WorkerCommand where
  program : Option (String × List String)
  runtime : String
  deriving DecidableEq, Repr

namespace WorkerCommand

def sentinelName : String := "BYTECODE_VERIFIER_WASM_WORKER"

def runtimeName : String := "BYTECODE_VERIFIER_WASM_RUNTIME"

def timeoutName : String := "BYTECODE_VERIFIER_WASM_TIMEOUT_MS"

def maxOutputName : String := "BYTECODE_VERIFIER_WASM_MAX_OUTPUT_SIZE"

def environment (worker : WorkerCommand) (limits : Limits) : List (String × String) :=
  [(sentinelName, "1"), (runtimeName, worker.runtime),
    (timeoutName, toString limits.timeout.milliseconds),
    (maxOutputName, toString limits.maxOutput)]

def numberIn (value : Option String) : Option Nat :=
  value.bind fun text => (Unsigned.parse text.toList).toOption

/-- The limits that variables give; what they do not give is standard. -/
def limitsIn (timeout maxOutput : Option String) : Limits where
  timeout := ((numberIn timeout).map Duration.ofMilliseconds).getD Limits.standard.timeout
  maxOutput := (numberIn maxOutput).getD Limits.standard.maxOutput

end WorkerCommand

/-! The side of the worker -/

/-- What the runtime is told to do: to evaluate the compiler and give it the
input that arrives. -/
def compilerScript : String := "
const fs = require('fs');
const soljson = require(process.argv[1]);
const input = fs.readFileSync(0, 'utf8');
let output;
if ('_solidity_compile' in soljson) \x7b
    const compile = soljson.cwrap('solidity_compile', 'string', ['string', 'number', 'number']);
    output = compile(input, 0, 0);
\x7d else if ('_compileStandard' in soljson) \x7b
    const compile = soljson.cwrap('compileStandard', 'string', ['string', 'number']);
    output = compile(input, 0);
\x7d else \x7b
    const message = 'compiler does not support standard json input';
    output = JSON.stringify(\x7b
        errors: [\x7b severity: 'error', type: 'UnsupportedCompiler', message, formattedMessage: message \x7d],
    \x7d);
\x7d
process.stdout.write(output, () => process.exit(0));
"

/-- Compiles with the runtime, under the limits that the variables give. -/
def compileWithRuntime (launch : Launcher) (environment : List (String × String)) : Compile :=
  fun compiler payload =>
    let runtime := (environment.lookup WorkerCommand.runtimeName).getD "node"
    let limits := WorkerCommand.limitsIn (environment.lookup WorkerCommand.timeoutName)
      (environment.lookup WorkerCommand.maxOutputName)
    launch.exchange ⟨runtime, ["-e", compilerScript, compiler], environment⟩ limits payload

def linesOf (messages : List Json) : Bytes := messages.flatMap lineOf

def brokenOffCode : Nat := 101

/-- This program as a worker. As long as it waits for the other side or for the
runtime, it has not ended. -/
def ownWorker (launch : Launcher) (environment : List (String × String)) : Process :=
  fun deadline incoming =>
    let service := serve inputTimeout (compileWithRuntime launch environment) incoming {}
    let output := linesOf (service.outlet.written.map WorkerMessage.toJson)
    let waiting : Progress := { output, errors := [], status := none }
    if deadline.nanoseconds < service.waited.nanoseconds then waiting
    else
      match service.result with
      | .ok () => { waiting with status := some (.exited 0) }
      | .error (.timeout _) => waiting
      | .error .overflow => { waiting with
          errors := Bytes.ofText (Fault.overflow.message ++ "\n")
          status := some (.exited brokenOffCode) }
      | .error fault => { waiting with
          errors := Bytes.ofText ("wasm worker failed: " ++ fault.message ++ "\n")
          status := some (.exited 1) }

def WorkerCommand.start (worker : WorkerCommand) (launch : Launcher) (limits : Limits) :
    Except String Process :=
  let environment := worker.environment limits
  match worker.program with
  | none => .ok (ownWorker launch environment)
  | some (program, arguments) => launch ⟨program, arguments, environment⟩

/-! The side that gives the work -/

/-- Talks to a worker until nothing new is sent to it, with what was sent at
first. -/
def converse (process : Process) (limits : Limits) (task : Task) :
    Nat → List ParentMessage → Session ParentMessage Json
  | 0, sent => ⟨⟨sent, none⟩, none⟩
  | rounds + 1, sent =>
    let progress := process limits.timeout ⟨linesOf (sent.map ParentMessage.toJson), false⟩
    let session := task.drive limits.maxOutput ⟨progress.output, progress.status.isSome⟩ {}
    if sent.length < session.outlet.written.length then
      converse process limits task rounds session.outlet.written
    else session

/-- A worker is sent two messages at most, so the third round sends nothing. -/
def maxRounds : Nat := 3

/-- What a process wrote to its errors, unless it is too much. -/
def errorText (limits : Limits) (errors : Bytes) : String :=
  match readCapped errors limits.maxOutput with
  | .ok errors => Utf8.decodeLenient errors
  | .error _ => ""

/-- Lets a worker process compile, and waits for its end. A good output of a
worker that then fails does not count. -/
def Process.compile (process : Process) (limits : Limits) (task : Task) : Except Fault Json :=
  let session := converse process limits task maxRounds []
  let sent := linesOf (session.outlet.written.map ParentMessage.toJson)
  match session.result with
  | none => .error ((process limits.timeout ⟨sent, false⟩).surrender limits)
  | some (.error fault) => .error fault
  | some (.ok result) =>
    let progress := process limits.timeout ⟨sent, true⟩
    match progress.status with
    | none => .error (.timeout limits.timeout)
    | some status =>
      if status.isSuccess then .ok result
      else .error (.workerFailed status (errorText limits progress.errors))

def compilePortably (launch : Launcher) (worker : WorkerCommand) (limits : Limits)
    (task : Task) : Except Fault Json := do
  let process ← (worker.start launch limits).mapError .spawn
  process.compile limits task

end Provenance.Execution
