import Provenance.Shell.Arithmetic
import Provenance.Shell.Builtin
import Provenance.Shell.Fields
import Provenance.Shell.Glob
import Provenance.Shell.Parser
import Provenance.Shell.Redirection
import Provenance.Shell.Runner
import Provenance.Shell.Scope

/-!
Running scripts. Words are expanded and split into fields, redirections are made,
and the command named by the first field is run: a part of the shell, a function,
a tool, or the program at a path.
-/

namespace Provenance.Shell

/-- Whether the status of a word's expansion is that of a script in it. -/
def substitutes (word : Word) : Bool :=
  word.any fun
    | .substitution _ _ => true
    | _ => false

def maxDepth : Nat := 100000

def arithmeticFault {α : Type} (text : Chars) : Arithmetic.Fault → Run α
  | .malformed => refuse ("arithmetic expression: expecting primary: \"" ++ textOf text ++ "\"")
  | .divisionByZero =>
    refuse ("arithmetic expression: division by zero: \"" ++ textOf text ++ "\"")
  | .illegalNumber number => refuse ("Illegal number: " ++ textOf number)

/-- What a parameter stands for, which has to be set where only such are used. -/
def bound (name : Chars) : Run (Option Chars) := do
  let m ← get
  let value := m.value? name
  if value.isNone && m.options.bound && name ≠ ['@'] && name ≠ ['*'] then
    refuse (textOf name ++ ": parameter not set")
  else pure value

/-- Shows a command before it is run, where that is asked for. -/
def trace (assignments : List (Chars × Chars)) (fields : List Chars) : Run Unit := do
  let m ← get
  if m.options.trace then
    let words := assignments.map (fun (name, value) => name ++ '=' :: value) ++ fields
    let opening := (m.get? "PS4".toList).getD "+ ".toList
    let _ ← emit m.err (opening ++ (words.intersperse [' ']).flatten ++ ['\n'])

/-- Runs something for a function: with parameters, and with what it makes its own. -/
def inFunction (arguments : List Chars) (body : Run Unit) : Run Unit := do
  let before ← get
  set { before with parameters := arguments, locals := [], loops := 0 }
  try body
  catch
    | .functionEnd => pure ()
    | stop => throw stop
  modify fun after =>
    let restored := after.locals.foldl (fun m (name, value) => m.put name value) after
    { restored with
      parameters := before.parameters, locals := before.locals, loops := before.loops }

/-- What the descriptors of a job stand for once its own redirections are made; where
they lead elsewhere does not matter. -/
def Job.channels (job : Job) : List (Nat × Channel) :=
  let redirects := match job.command with
    | .simple _ _ _ redirects | .group _ redirects | .subshell _ redirects => redirects
    | _ => []
  redirects.foldl (fun channels r =>
    let others := channels.filter fun c => c.1 ≠ r.descriptor
    match r.kind, r.target with
    | .duplicate, [.literal _ text] =>
      match channels.lookup (Ascii.numberOf 10 text) with
      | some channel => (r.descriptor, channel) :: others
      | none => others
    | _, _ => others) job.scene.channels

/-- Lets a shell within a time; where the time is over before that of the process is,
the status says so. -/
def within (time : Nat) (action : Run Unit) : Run Unit := do
  let before ← get
  let stop := before.now + time
  if before.deadline ≤ stop then action
  else
    set { before with deadline := stop }
    try action
    catch
      | .waiting | .writing => leaveShell before 124
      | stop => throw stop
    modify fun after => { after with deadline := before.deadline }

def withHome (m : Machine) : Word → Word
  | .literal false ('~' :: text) :: rest =>
    if text.isEmpty && !rest.isEmpty || !(text.isEmpty || text.head? = some '/') then
      .literal false ('~' :: text) :: rest
    else
      match m.get? "HOME".toList with
      | some home => .literal true home :: .literal false text :: rest
      | none => .literal false ('~' :: text) :: rest
  | word => word

mutual

def expandPart : Nat → Part → Run (List Piece)
  | 0, _ => throw .writing
  | fuel + 1, part => do
    match part with
    | .literal quoted text => pure [.chars false (!quoted) text]
    | .length name =>
      let value := (← bound name).getD []
      pure [.chars true true (toString value.length).toList]
    | .variable quoted name =>
      let m ← get
      if name = ['@'] || (name = ['*'] && !quoted) then
        if m.parameters.isEmpty then pure [.absent]
        else pure ((m.parameters.map (Piece.chars (!quoted) (!quoted))).intersperse .boundary)
      else pure [.chars (!quoted) (!quoted) ((← bound name).getD [])]
    | .substitution quoted script =>
      let output ← capture do
        finish fuel (Parser.script script)
        settle fuel
      let text := output.filter (· ≠ '\x00')
      pure [.chars (!quoted) (!quoted) (text.reverse.dropWhile (· = '\n')).reverse]
    | .arithmetic quoted source =>
      let text := Piece.joined (← expandPieces fuel (Token.quotedWord .braces source))
      match Arithmetic.evaluate (← get).value? text with
      | .ok (n, assigned) =>
        for (name, value) in assigned.reverse do assignName name (toString value).toList
        pure [.chars (!quoted) (!quoted) (toString n).toList]
      | .error fault => arithmeticFault text fault
    | .alternative quoted name operator source =>
      let value := (← get).value? name
      let isSet : Bool := match operator with
        | ':' :: _ => value.any fun text => !text.isEmpty
        | _ => value.isSome
      let word := if quoted then Token.quotedWord .braces source else Token.wholeWord source
      let own : Run (List Piece) := do
        if name = ['@'] || name = ['*'] then expandPart fuel (.variable quoted name)
        else pure [.chars (!quoted) (!quoted) (value.getD [])]
      let other : Run (List Piece) := do
        let pieces ← expandPieces fuel word
        pure (if quoted then pieces else pieces.map Piece.spread)
      let trimmed (atEnd : Bool) (mark : Char) : Run (List Piece) := do
        let value := (← bound name).getD []
        let longest := source.head? = some mark
        let word := Token.wholeWord (if longest then source.drop 1 else source)
        let pattern := Piece.pattern (← expandPieces fuel word)
        pure [.chars (!quoted) (!quoted) (Pattern.trim atEnd longest pattern value)]
      match operator.getLast? with
      | some '-' => if isSet then own else other
      | some '+' => if isSet then other else pure []
      | some '=' =>
        if isSet then own
        else
          let text := Piece.joined (← expandPieces fuel word)
          assignName name text
          pure [.chars (!quoted) (!quoted) text]
      | some '?' =>
        if isSet then own
        else
          let reason ← if source.isEmpty then pure "parameter not set".toList
            else do pure (Piece.joined (← expandPieces fuel word))
          refuse (textOf name ++ ": " ++ textOf reason)
      | some '#' => trimmed false '#'
      | some '%' => trimmed true '%'
      | _ => refuse "Bad substitution"

def expandPieces : Nat → Word → Run (List Piece)
  | 0, _ => throw .writing
  | _, [] => pure []
  | fuel + 1, part :: rest => do
    let first ← expandPart fuel part
    let later ← expandPieces fuel rest
    pure (first ++ later)

def expandFields : Nat → List Word → Run (List Chars)
  | 0, _ => throw .writing
  | _, [] => pure []
  | fuel + 1, word :: rest => do
    let pieces ← expandPieces fuel (withHome (← get) word)
    let m ← get
    let fields := Piece.fieldsOf m.separators pieces
    let texts := if m.options.plain then fields.map Glob.textOfPattern
      else fields.flatMap (Glob.fieldOrPaths m.files m.directory)
    pure (texts ++ (← expandFields fuel rest))

/-- Makes redirections; the first that cannot be made ends them. -/
def redirectAll : Nat → List Redirect → Run Bool
  | 0, _ => throw .writing
  | _, [] => pure true
  | fuel + 1, r :: rest => do
    let target := Piece.joined (← expandPieces fuel (withHome (← get) r.target))
    if ← redirect r.descriptor r.kind target then redirectAll fuel rest
    else
      complain (match r.kind with
        | .read => "cannot open " ++ textOf target ++ ": No such file"
        | .duplicate => textOf target ++ ": Bad file descriptor"
        | _ => "cannot create " ++ textOf target ++ ": Directory nonexistent") 2
      pure false

def assign : Nat → List (Chars × Word) → Run (List (Chars × Chars))
  | 0, _ => throw .writing
  | _, [] => pure []
  | fuel + 1, (name, word) :: rest => do
    let value := Piece.joined (← expandPieces fuel (withHome (← get) word))
    assignName name value
    pure ((name, value) :: (← assign fuel rest))

/-- Does what is to be done at a signal, or at the end; the status stays. -/
def runTrap : Nat → Nat → Run Unit
  | 0, _ => throw .writing
  | fuel + 1, signal => do
    let m ← get
    match m.traps.lookup signal with
    | none | some [] => pure ()
    | some action =>
      if signal = 0 then set { m with traps := m.traps.filter fun trap => trap.1 ≠ 0 }
      run fuel (Parser.script action)
      setStatus m.status

def runTraps : Nat → Run Unit
  | 0 => throw .writing
  | fuel + 1 => do
    let m ← get
    match m.signals with
    | [] => pure ()
    | signal :: rest =>
      set { m with signals := rest }
      runTrap fuel signal
      runTraps fuel

def finish : Nat → Command → Run Unit
  | 0, _ => throw .writing
  | fuel + 1, command => do
    setStatus (← finalStatus (run fuel command))
    setStatus (← finalStatus (runTrap fuel 0))

def runJob : Nat → Job → Run Unit
  | 0, _ => throw .writing
  | fuel + 1, job => do
    let before ← get
    set { before with
      toScene := job.scene, now := job.start
      jobs := before.jobs.filter fun other => other.number ≠ job.number }
    inProcess (finish fuel job.command)
    modify fun after => { after with
      toScene := before.toScene, now := max before.now after.now
      finished := (job.number, after.status) :: after.finished }

def runJobs : Nat → List Job → Run Unit
  | 0, _ => throw .writing
  | _, [] => pure ()
  | fuel + 1, job :: rest => do
    runJob fuel job
    runJobs fuel rest

/-- Runs the jobs that would end within a time, which they take for themselves. -/
def advance : Nat → Nat → List Job → Run Unit
  | 0, _, _ => throw .writing
  | _, _, [] => pure ()
  | fuel + 1, time, job :: rest => do
    let before ← get
    set { before with deadline := min before.deadline (before.now + time) }
    try
      runJob fuel job
      modify fun after => { after with now := before.now, deadline := before.deadline }
    catch _ => set before
    advance fuel time rest

/-- Waits for the jobs that write to where output is collected now. -/
def settle : Nat → Run Unit
  | 0 => throw .writing
  | fuel + 1 => do
    let m ← get
    let level := m.collected.length - 1
    let writes (sink : Sink) : Bool := sink = .output level || (level = 0 && sink = .errors)
    let awaited := m.jobs.filter fun job => job.channels.any fun c =>
      match c.2 with
      | .sink sink => writes sink
      | .source _ => false
    runJobs fuel awaited
    setStatus m.status

def waitFor : Nat → List Chars → Run Unit
  | 0, _ => throw .writing
  | fuel + 1, words => do
    let m ← get
    match words with
    | [] =>
      runJobs fuel m.jobs
      setStatus 0
    | word :: rest =>
      match Tools.jobOf? m word with
      | none => setStatus 127
      | some number =>
        runJobs fuel (m.jobs.filter fun job => job.number = number)
        setStatus (((← get).finished.lookup number).getD 127)
      if !rest.isEmpty then waitFor fuel rest

/-- Runs a script as a program, with its own parameters and with the variables
that programs are given. -/
def runScript : Nat → Command → Chars → Chars → List Chars → Run Unit
  | 0, _, _, _, _ => throw .writing
  | fuel + 1, command, letters, name, parameters => do
    modify fun m => { m with
      bindings := Machine.parentNumber :: m.bindings.filter fun entry => m.exported.contains entry.1
      functions := [], fixed := [], locals := [], loops := 0, name, parameters, status := 0
      options := letters.foldl (fun o letter => (o.set? true letter).getD o) {}
      tested := false }
    finish fuel command

def runProgram : Nat → String → Chars → List Chars → Run Unit
  | 0, _, _, _ => throw .writing
  | fuel + 1, place, name, arguments => do
    match ← programFor name with
    | .ok program => inProcess (become fuel program name arguments)
    | .error cause => noProgram place name cause

/-- Runs commands one after the other; the status says whether one of them failed. -/
def runCommands : Nat → Nat → List (List Chars) → Run Unit
  | 0, _, _ => throw .writing
  | _, code, [] => setStatus code
  | fuel + 1, code, words :: rest => do
    runProgram fuel "" (words.headD []) (words.drop 1)
    let status := (← get).status
    let code := if status = 0 then code else if 126 ≤ status && status ≤ 127 then status else 123
    if status = 255 then setStatus 124 else runCommands fuel code rest

def runRunner : Nat → Runner → List Chars → Run Unit
  | 0, _, _ => throw .writing
  | fuel + 1, runner, arguments => do
    match runner with
    | .environment =>
      match ← setVariables (arguments.length + 1) arguments with
      | none => Tools.report "env" "invalid option" 125
      | some [] => showEnvironment []
      | some (name :: arguments) => runProgram fuel "env: " name arguments
    | .arguments =>
      let choices := Tools.flags "0rtx" ++ Tools.values "nILdPsE"
      match Tools.split choices true (arguments.length + 1) arguments with
      | none => Tools.report "xargs" "invalid option" 1
      | some g =>
        let text ← Tools.wholeInput
        modify fun m => m.feed 0 (.ended [] true)
        runCommands fuel 0 (commandsOf g text)
    | .timeout =>
      let choices : List Tools.Choice := [⟨'s', "signal", true⟩, ⟨'k', "kill-after", true⟩,
        ⟨'p', "preserve-status", false⟩, ⟨'f', "foreground", false⟩, ⟨'v', "verbose", false⟩]
      match Tools.split choices true (arguments.length + 1) arguments with
      | some ⟨_, time :: name :: arguments⟩ =>
        match Tools.timeOf? time with
        | some time => within time (runProgram fuel "timeout: " name arguments)
        | none => Tools.report "timeout" "invalid time interval" 125
      | _ => Tools.report "timeout" "missing operand" 125
    | .plain options =>
      match Tools.split (Tools.values options) true (arguments.length + 1) arguments with
      | some ⟨_, name :: arguments⟩ => runProgram fuel "" name arguments
      | _ => Tools.report "nohup" "missing operand" 125

def become : Nat → Program → Chars → List Chars → Run Unit
  | 0, _, _, _ => throw .writing
  | fuel + 1, program, name, arguments => do
    modify fun m => { m with traps := m.traps.filter fun trap => trap.2.isEmpty }
    match program with
    | .script text options => runScript fuel (Parser.script text) options name arguments
    | .tool tool given =>
      match Tools.program? tool with
      | some use => use (given ++ arguments)
      | none => setStatus 127
    | .runner runner given => runRunner fuel runner (given ++ arguments)
    | .variables => showEnvironment arguments
    | .which =>
      let found ← arguments.filterMapM fun name => do
        match ← programFor name with
        | .ok _ => pure (some (if name.contains '/' then name else "/usr/bin/".toList ++ name))
        | .error _ => pure none
      say (Tools.unlines found)
      setStatus (if found.length < arguments.length then 1 else 0)
    | .shell => runShell fuel [] arguments

def runShell : Nat → Chars → List Chars → Run Unit
  | 0, _, _ => throw .writing
  | fuel + 1, letters, arguments => do
    let name := "sh".toList
    match arguments with
    | ('-' :: letter :: more) :: rest =>
      let given := letter :: more
      if given.contains 'c' then
        let letters := letters ++ given.filter (· ≠ 'c')
        match (if rest.head? = some ['-', '-'] then rest.drop 1 else rest) with
        | [] => complain "-c requires an argument" 2
        | [text] => runScript fuel (Parser.script text) letters name []
        | text :: name :: parameters =>
          runScript fuel (Parser.script text) letters name parameters
      else if given.contains 's' then
        runScript fuel (Parser.script (← Tools.wholeInput)) letters name rest
      else runShell fuel (letters ++ given) rest
    | path :: parameters =>
      match (← get).files.read (← pathOf path) with
      | .ok content =>
        runScript fuel (Parser.script (Chars.ofBytes content)) letters path parameters
      | .error _ => complain ("cannot open " ++ textOf path ++ ": No such file") 2
    | [] => runScript fuel (Parser.script (← Tools.wholeInput)) letters name []

def runOwn : Nat → String → List Chars → Run Unit
  | 0, _, _ => throw .writing
  | fuel + 1, name, arguments => do
    match name with
    | "eval" =>
      match Parser.script ((arguments.intersperse [' ']).flatten) with
      | .nothing => setStatus 0
      | command => run fuel command
    | "command" =>
      match arguments with
      | ['-', 'p'] :: rest => runOwn fuel "command" rest
      | ['-', 'v'] :: name :: _ => showCommand false name
      | ['-', 'V'] :: name :: _ => showCommand true name
      | name :: arguments => runNamed fuel false name arguments
      | [] => setStatus 0
    | "type" =>
      setStatus 0
      let mut failed := false
      for name in arguments do
        showCommand true name
        if (← get).status ≠ 0 then failed := true
      setStatus (if failed then 127 else 0)
    | "wait" => waitFor fuel arguments
    | "exec" =>
      match (if arguments.head? = some ['-', '-'] then arguments.drop 1 else arguments) with
      | [] => setStatus 0
      | name :: arguments =>
        match ← programFor name with
        | .ok program =>
          let code ← finalStatus (become fuel program name arguments)
          modify fun m => { m with traps := [] }
          throw (.exit code)
        | .error cause =>
          noProgram "exec: " name cause
          throw (.exit (← get).status)
    | _ =>
      match arguments with
      | [] => setStatus 0
      | path :: _ =>
        match (← get).files.read (← pathOf path) with
        | .ok content =>
          setStatus 0
          try run fuel (Parser.script (Chars.ofBytes content))
          catch
            | .functionEnd => pure ()
            | stop => throw stop
        | .error _ => refuse (".: cannot open " ++ textOf path ++ ": No such file")

/-- Runs the command that a field names, with the other fields; functions may be passed
over. -/
def runNamed : Nat → Bool → Chars → List Chars → Run Unit
  | 0, _, _, _ => throw .writing
  | fuel + 1, functions, name, arguments => do
    let m ← get
    let text := String.ofList name
    let body := if functions && !specials.contains text then m.functions.lookup name else none
    match body, builtin? text arguments, Tools.own? name with
    | some body, _, _ => inFunction arguments (run fuel body)
    | none, some action, _ => action
    | none, none, some use => use arguments
    | none, none, none =>
      if runningNames.contains text then runOwn fuel text arguments
      else
        if text = "sleep" && !m.jobs.isEmpty then
          advance fuel ((arguments.filterMap Tools.timeOf?).foldl (· + ·) 0) m.jobs
        runProgram fuel "" name arguments

/-- Runs a loop: the status is that of the last time that its body was run. -/
def runLoop : Nat → Bool → Command → Command → Nat → Run Unit
  | 0, _, _, _, _ => throw .writing
  | fuel + 1, untilTrue, test, body, last => do
    tolerant (run fuel test)
    if ((← get).status = 0) != untilTrue then
      if ← turn (run fuel body) then runLoop fuel untilTrue test body (← get).status
    else setStatus last

def runEach : Nat → Chars → Command → List Chars → Run Unit
  | 0, _, _, _ => throw .writing
  | _, _, _, [] => pure ()
  | fuel + 1, name, body, value :: rest => do
    assignName name value
    if ← turn (run fuel body) then runEach fuel name body rest

def fitsOne : Nat → Chars → List Word → Run Bool
  | 0, _, _ => throw .writing
  | _, _, [] => pure false
  | fuel + 1, text, word :: rest => do
    let pattern := Piece.pattern (← expandPieces fuel word)
    if pattern.fits text then pure true else fitsOne fuel text rest

/-- Runs a simple command: its words are expanded first. -/
def runSimple : Nat → List (Chars × Word) → List Word → List Redirect → Run Unit
  | 0, _, _, _ => throw .writing
  | fuel + 1, assignments, words, redirects => do
    let fields ← expandFields fuel words
    let before ← get
    let descriptors := redirects.map (·.descriptor)
    match fields with
    | [] =>
      let assigned ← assign fuel assignments
      trace assigned []
      let substituted := words.any substitutes || assignments.any fun a => substitutes a.2
      if !substituted then setStatus 0
      under (redirectAll fuel redirects) descriptors (pure ())
    | name :: arguments =>
      let text := String.ofList name
      let isSpecial := specials.contains text
      let assigned ← assign fuel assignments
      trace assigned fields
      if text = "exec" && arguments.isEmpty then
        setStatus 0
        if !(← redirectAll fuel redirects) then throw (.exit 2)
      else
        modify fun m => { m with exported := assigned.map Prod.fst ++ m.exported }
        let prepare : Run Bool := do
          let made ← redirectAll fuel redirects
          if !made && isSpecial then throw (.exit 2)
          pure made
        under prepare descriptors (runNamed fuel true name arguments)
        let passing := (assigned.map Prod.fst).filter fun other => !before.exported.contains other
        modify fun after => { after with
          exported := after.exported.filter fun other => !passing.contains other }
        if !isSpecial then
          modify fun after => assigned.foldl (fun m a => m.put a.1 (before.get? a.1)) after

def run : Nat → Command → Run Unit
  | 0, _ => throw .writing
  | fuel + 1, command => do
    match command with
    | .nothing => pure ()
    | .malformed line text =>
      modify fun m => { m with line }
      refuse text
    | .simple line assignments words redirects =>
      modify fun m => { m with line }
      runSimple fuel assignments words redirects
      runTraps fuel
      checkStatus
    | .sequence first second =>
      run fuel first
      run fuel second
    | .both first second =>
      tolerant (run fuel first)
      if (← get).status = 0 then run fuel second
    | .either first second =>
      tolerant (run fuel first)
      if (← get).status ≠ 0 then run fuel second
    | .negation command =>
      tolerant (run fuel command)
      setStatus (if (← get).status = 0 then 1 else 0)
    | .pipe source target =>
      let (text, stop) ← overhear do
        finish fuel source
        settle fuel
      if let some (.ended status) := stop then throw (.ended status)
      let before ← get
      set (before.feed 0 ⟨⟨Chars.toBytes text, stop.isNone⟩, false, stop = some .writing⟩)
      apart (finish fuel target)
      modify fun after => { after with channels := before.channels }
      if stop = some .waiting then throw .waiting
      checkStatus
    | .aside command =>
      modify fun m =>
        let number := m.started + 1
        let quiet := m.feed 0 (.ended [] true)
        let scene := { quiet.toScene with
          traps := m.traps.filter fun trap => trap.2.isEmpty, status := 0, loops := 0 }
        { m with
          sources := quiet.sources, started := number, status := 0
          jobs := m.jobs.concat ⟨number, scene, command, m.now⟩ }
    | .group body redirects =>
      under (redirectAll fuel redirects) (redirects.map (·.descriptor)) (run fuel body)
    | .subshell body redirects =>
      apart (under (redirectAll fuel redirects) (redirects.map (·.descriptor)) (finish fuel body))
      checkStatus
    | .conditional test yes no =>
      tolerant (run fuel test)
      if (← get).status = 0 then run fuel yes
      else
        match no with
        | .nothing => setStatus 0
        | no => run fuel no
    | .loop untilTrue test body => runLoop fuel untilTrue test body 0
    | .iteration name words body =>
      let values ← match words with
        | some words => expandFields fuel words
        | none => do pure (← get).parameters
      if values.isEmpty then setStatus 0 else runEach fuel name body values
    | .choice word shapes body next =>
      let text := Piece.joined (← expandPieces fuel word)
      if ← fitsOne fuel text shapes then
        match body with
        | .nothing => setStatus 0
        | body => run fuel body
      else
        match next with
        | .nothing => setStatus 0
        | next => run fuel next
    | .define name body =>
      modify fun m => { m with
        functions := (name, body) :: m.functions.filter fun entry => entry.1 ≠ name
        status := 0 }

end

end Provenance.Shell
