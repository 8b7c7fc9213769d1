import Provenance.Shell.Interpreter

/-!
Starting programs of a host: the scripts among its files, its shell and its
tools. Starting one takes some time, so nothing is seen of it at once.
-/

namespace Provenance.Shell

def startTime : Duration := .ofMilliseconds 2

def hostVariables : List (String × String) :=
  [("HOME", "/root"), ("PATH", "/usr/local/sbin:/usr/local/bin:/usr/sbin:/usr/bin:/sbin:/bin")]

def startState (files : Files.Tree) (environment : List (String × String)) (deadline : Duration)
    (input : Execution.Stream) : Machine where
  files := ["/tmp", "/root"].foldl (fun files path =>
    ((files.makeDirectories path).toOption.map Prod.fst).getD files) files
  bindings := (environment ++ hostVariables).map fun (name, value) =>
    (Chars.ofText name, Chars.ofText value)
  exported := (environment ++ hostVariables).map fun entry => Chars.ofText entry.1
  fixed := []
  functions := []
  name := []
  parameters := []
  locals := []
  loops := 0
  optionPlace := (1, 1)
  options := {}
  tested := false
  channels := [(0, .source 0), (1, .sink (.output 0)), (2, .sink .errors)]
  traps := []
  directory := none
  status := 0
  line := 0
  sources := [⟨input, true, false⟩]
  collected := [[]]
  complaints := []
  jobs := []
  started := 0
  finished := []
  signals := []
  now := 0
  deadline := deadline.nanoseconds

/-- A program as a process. It is at its end when nothing is left that may write what is
read of it. -/
def process (files : Files.Tree) (program : Program) (command : Execution.CommandLine) :
    Execution.Process := fun deadline input =>
  let action : Run Unit := do
    pass startTime.nanoseconds
    let code ← finalStatus (become maxDepth program (Chars.ofText command.program)
      (command.arguments.map Chars.ofText))
    setStatus code
    settle maxDepth
  let (result, m) := action.run.run (startState files command.environment deadline input)
  let status := match result with
    | .ok () => some (.exited m.status)
    | .error .waiting | .error .writing => none
    | .error (.ended status) => some status
    | .error (.exit code) => some (.exited code)
    | .error .functionEnd => some (.exited m.status)
    | .error (.leave _ _) => some (.exited m.status)
  let output := m.output
  let flooding := (result matches .error .writing) && floodSize ≤ output.length
  ⟨output, m.errors, status, flooding⟩

def launcher (files : Files.Tree) : Execution.Launcher := fun command =>
  if command.program.contains '\x00' then .error "nul byte found in provided data"
  else
    match Program.named files none (Chars.ofText command.program) with
    | .ok program => .ok (process files program command)
    | .error cause => .error cause.message

end Provenance.Shell
