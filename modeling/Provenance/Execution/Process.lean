import Provenance.Execution.Stream

/-!
Processes as they are seen from outside: what has come out of one by a deadline,
given what has been sent to it.
-/

namespace Provenance.Execution

structure Progress where
  output : Bytes
  errors : Bytes
  status : Option ExitStatus
  /-- Whether it writes without end, of which only the beginning is kept. -/
  flooding : Bool := false
  deriving DecidableEq, Repr

/-- Why a process that did not end is given up. -/
def Progress.surrender (progress : Progress) (limits : Limits) : Fault :=
  if progress.flooding then .tooLarge limits.maxOutput else .timeout limits.timeout

abbrev Process := Duration → Stream → Progress

structure CommandLine where
  program : String
  arguments : List String
  environment : List (String × String)
  deriving DecidableEq, Repr

/-- What starts programs; where one cannot be started, why. -/
abbrev Launcher := CommandLine → Except String Process

structure Ended where
  status : ExitStatus
  output : Bytes
  errors : Bytes
  deriving DecidableEq, Repr

/-- Sends a process its whole input and waits for its end within limits. -/
def Process.finish (process : Process) (limits : Limits) (input : Bytes) :
    Except Fault Ended := do
  let progress := process limits.timeout ⟨input, true⟩
  let output ← readCapped progress.output limits.maxOutput
  let errors ← readCapped progress.errors limits.maxOutput
  match progress.status with
  | none => .error (progress.surrender limits)
  | some status => .ok ⟨status, output, errors⟩

/-- Starts a program, gives it a document and reads the document that it writes,
whatever its status is. -/
def Launcher.exchange (launch : Launcher) (command : CommandLine) (limits : Limits)
    (input : Json) : Except Fault Json := do
  let process ← (launch command).mapError .spawn
  let ended ← process.finish limits (Bytes.ofText input.compact)
  (Json.read ended.output).mapError .badOutput

/-!
Compilers that run by themselves. They read a document and write one.
-/

inductive LaunchMode where
  | direct
  | posixShell
  deriving DecidableEq, Repr

namespace LaunchMode

def choices : List (String × LaunchMode) := [("direct", direct), ("posix_shell", posixShell)]

def name : LaunchMode → String
  | .direct => "direct"
  | .posixShell => "posix_shell"

def decode : Shape.Decoder LaunchMode := Shape.choice choices

def compilerArguments : List String := ["--standard-json"]

/-- The command that starts a compiler. For a shell the path is an argument and
never part of the script. -/
def command (mode : LaunchMode) (path : String) : CommandLine :=
  match mode with
  | .direct => ⟨path, compilerArguments, []⟩
  | .posixShell => ⟨"/bin/sh", ["-c", "exec \"$0\" --standard-json", path], []⟩

end LaunchMode

def compileNatively (launch : Launcher) (mode : LaunchMode) (path : String) (limits : Limits)
    (input : Json) : Except Fault Json :=
  launch.exchange (mode.command path) limits input

end Provenance.Execution
