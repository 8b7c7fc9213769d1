import Provenance.Execution.Message
import Provenance.Json.Scanner
import Provenance.Number.Power

/-!
Lengths of time, in nanoseconds, and their text: the largest unit that fits with
as many decimals as are needed.
-/

namespace Provenance

structure Duration where
  nanoseconds : Nat
  deriving DecidableEq, Repr

namespace Duration

def ofMilliseconds (n : Nat) : Duration := ⟨n * 1000000⟩

def ofSeconds (n : Nat) : Duration := ⟨n * 1000000000⟩

/-- Whole milliseconds, the rest dropped. -/
def milliseconds (d : Duration) : Nat := d.nanoseconds / 1000000

/-- The digits of a fraction `part / 10 ^ places`, without zeros at their end. -/
def decimals (part places : Nat) : String :=
  let digits := (toString part).toList
  let padded := List.replicate (places - digits.length) '0' ++ digits
  String.ofList (padded.reverse.dropWhile (· = '0')).reverse

def inUnit (d : Duration) (places : Nat) (unit : String) : String :=
  let whole := d.nanoseconds / 10 ^ places
  let part := d.nanoseconds % 10 ^ places
  if part = 0 then toString whole ++ unit
  else toString whole ++ "." ++ decimals part places ++ unit

def text (d : Duration) : String :=
  if 10 ^ 9 ≤ d.nanoseconds then d.inUnit 9 "s"
  else if 10 ^ 6 ≤ d.nanoseconds then d.inUnit 6 "ms"
  else if 10 ^ 3 ≤ d.nanoseconds then d.inUnit 3 "µs"
  else d.inUnit 0 "ns"

end Duration

end Provenance

/-!
What bounds the run of a compiler, and how a run may fail.
-/

namespace Provenance.Execution

/-- The bounds of a run: how long it may take, and how many bytes it may write
to each of its streams. -/
structure Limits where
  timeout : Duration
  maxOutput : Nat
  deriving DecidableEq, Repr

/-- Two minutes and sixty-four megabytes. -/
def Limits.standard : Limits := ⟨.ofSeconds 120, 64 * 1024 * 1024⟩

/-- How a process ends: by itself, with a code, or by a signal. -/
inductive ExitStatus where
  | exited (code : Nat)
  | killed (signal : Nat)
  deriving DecidableEq, Repr

namespace ExitStatus

def isSuccess (status : ExitStatus) : Bool := status = .exited 0

def signalNames : List (Nat × String) :=
  [(1, "SIGHUP"), (2, "SIGINT"), (3, "SIGQUIT"), (4, "SIGILL"), (5, "SIGTRAP"), (6, "SIGABRT"),
    (7, "SIGBUS"), (8, "SIGFPE"), (9, "SIGKILL"), (10, "SIGUSR1"), (11, "SIGSEGV"),
    (12, "SIGUSR2"), (13, "SIGPIPE"), (14, "SIGALRM"), (15, "SIGTERM"), (16, "SIGSTKFLT"),
    (17, "SIGCHLD"), (18, "SIGCONT"), (19, "SIGSTOP"), (20, "SIGTSTP"), (21, "SIGTTIN"),
    (22, "SIGTTOU"), (23, "SIGURG"), (24, "SIGXCPU"), (25, "SIGXFSZ"), (26, "SIGVTALRM"),
    (27, "SIGPROF"), (28, "SIGWINCH"), (29, "SIGIO"), (30, "SIGPWR"), (31, "SIGSYS")]

def text : ExitStatus → String
  | .exited code => "exit status: " ++ toString code
  | .killed signal =>
    "signal: " ++ toString signal ++
      ((signalNames.lookup signal).map fun name => " (" ++ name ++ ")").getD ""

end ExitStatus

inductive Breach where
  | exitedBeforeReady
  | exitedBeforeOutput
  | notReady (message : WorkerMessage)
  | notOutput (message : WorkerMessage)
  | wrongId (expected found : Nat)
  | closedBeforeInput
  | noInput (within : Duration)
  | malformed
  | other (text : String)

def Breach.message : Breach → String
  | .exitedBeforeReady => "worker exited before ready"
  | .exitedBeforeOutput => "worker exited before output"
  | .notReady message => "expected ready, got " ++ message.describe
  | .notOutput message => "expected output, got " ++ message.describe
  | .wrongId expected found =>
    "output id mismatch; expected=" ++ toString expected ++ ", found=" ++ toString found
  | .closedBeforeInput => "parent closed the stream before input"
  | .noInput within => "no input received within " ++ within.text
  | .malformed => "malformed message"
  | .other text => text

/-- Why a run has no output. An overflow is not reported: the program breaks off. -/
inductive Fault where
  | spawn (text : String)
  | io (text : String)
  | timeout (limit : Duration)
  | tooLarge (limit : Nat)
  | badOutput (cause : Json.Fault)
  | breach (cause : Breach)
  | workerFailed (status : ExitStatus) (errors : String)
  | overflow

def Fault.message : Fault → String
  | .spawn text => "cannot spawn compiler process: " ++ text
  | .io text => "compiler process i/o failed: " ++ text
  | .timeout limit => "compilation timed out after " ++ limit.text
  | .tooLarge limit => "compiler output exceeds " ++ toString limit ++ " bytes"
  | .badOutput .unfinished => "compiler output is not valid json: EOF while parsing a value"
  | .badOutput .malformed => "compiler output is not valid json: expected value"
  | .breach cause => "wasm worker protocol violation: " ++ cause.message
  | .workerFailed status errors =>
    "wasm worker failed with " ++ status.text ++ ": " ++ errors
  | .overflow => "attempt to add with overflow"

end Provenance.Execution
