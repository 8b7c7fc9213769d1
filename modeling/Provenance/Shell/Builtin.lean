import Provenance.Shell.Program
import Provenance.Shell.Token

/-!
The commands of the shell that are neither programs nor run others.
-/

namespace Provenance.Shell

def argumentNumber (arguments : List Chars) (absent : Nat) : Run Nat := do
  match arguments with
  | text :: _ =>
    match Tools.integer? text with
    | some (.ofNat n) => pure n
    | _ => refuse ("Illegal number: " ++ textOf text)
  | [] => pure absent

/-! Options and parameters -/

def Options.set? (o : Options) (on : Bool) (letter : Char) : Option Options :=
  match letter with
  | 'e' => some { o with strict := on }
  | 'u' => some { o with bound := on }
  | 'x' => some { o with trace := on }
  | 'f' => some { o with plain := on }
  | 'a' => some { o with exports := on }
  | letter => if "nvmbCEIVi".toList.contains letter then some o else none

def optionNames : List (String × Char) :=
  [("errexit", 'e'), ("nounset", 'u'), ("xtrace", 'x'), ("noglob", 'f'), ("allexport", 'a'),
    ("noexec", 'n'), ("verbose", 'v'), ("monitor", 'm'), ("notify", 'b'), ("noclobber", 'C')]

def setOptions : List Chars → Run Unit
  | [] => pure ()
  | ['-', '-'] :: parameters => modify fun m => { m with parameters }
  | [sign, 'o'] :: name :: rest =>
    match optionNames.lookup (String.ofList name) with
    | some letter => do
      modify fun m => { m with options := (m.options.set? (sign = '-') letter).getD m.options }
      setOptions rest
    | none => refuse ("set: Illegal option -o " ++ textOf name)
  | (sign :: letter :: letters) :: rest => do
    if sign ≠ '-' && sign ≠ '+' then
      modify fun m => { m with parameters := (sign :: letter :: letters) :: rest }
    else
      for letter in letter :: letters do
        match (← get).options.set? (sign = '-') letter with
        | some options => modify fun m => { m with options }
        | none => refuse ("set: Illegal option -" ++ textOf [letter])
      setOptions rest
  | parameters => modify fun m => { m with parameters }

def shift (arguments : List Chars) : Run Unit := do
  let count ← argumentNumber arguments 1
  if (← get).parameters.length < count then refuse "shift: can't shift that many"
  else modify fun m => { m with parameters := m.parameters.drop count, status := 0 }

/-! Variables -/

def declaration (argument : Chars) : Chars × Option Chars :=
  let name := argument.takeWhile (· ≠ '=')
  (name, if argument.contains '=' then some (argument.drop (name.length + 1)) else none)

def isName (name : Chars) : Bool :=
  name.head?.any Token.isNameStart && name.all Token.isNamePart

def declareAll (command : String) (arguments : List Chars) (use : Chars → Machine → Machine) :
    Run Unit := do
  for argument in arguments do
    let (name, value) := declaration argument
    if !isName name then refuse (command ++ ": " ++ textOf name ++ ": bad variable name")
    if let some value := value then assignName name value
    modify (use name)
  setStatus 0

def inQuotes (value : Chars) : Chars :=
  '\x27' :: (value.flatMap fun c => if c = '\x27' then "'\"'\"'".toList else [c]) ++ ['\x27']

def showVariables (command : String) (names : List Chars) : Run Unit := do
  let m ← get
  let known := names.eraseDups.mergeSort fun a b => decide (String.ofList a ≤ String.ofList b)
  say (known.flatMap fun name =>
    command.toList ++ ' ' :: name ++
      ((m.get? name).elim [] fun value => '=' :: inQuotes value) ++ ['\n'])

def exportNames (arguments : List Chars) : Run Unit := do
  let arguments := if arguments.head? = some ['-', '-'] then arguments.drop 1 else arguments
  if arguments.isEmpty || arguments = [['-', 'p']] then
    showVariables "export" (← get).exported
  else declareAll "export" arguments fun name m => { m with exported := name :: m.exported }

def readonly (arguments : List Chars) : Run Unit := do
  if arguments.isEmpty || arguments = [['-', 'p']] then showVariables "readonly" (← get).fixed
  else declareAll "readonly" arguments fun name m => { m with fixed := name :: m.fixed }

def makeLocal (arguments : List Chars) : Run Unit := do
  for argument in arguments do
    let (name, value) := declaration argument
    modify fun m => { m with locals := (name, m.get? name) :: m.locals }
    if let some value := value then assignName name value
  setStatus 0

def Machine.put (m : Machine) (name : Chars) (value : Option Chars) : Machine :=
  value.elim (m.unset name) (m.set name)

def unset (arguments : List Chars) : Run Unit := do
  let (ofFunctions, names) := match arguments with
    | ['-', 'f'] :: names => (true, names)
    | ['-', 'v'] :: names => (false, names)
    | names => (false, names)
  for name in names do
    if ofFunctions then
      modify fun m => { m with functions := m.functions.filter fun entry => entry.1 ≠ name }
    else if (← get).fixed.contains name then refuse ("unset: " ++ textOf name ++ ": is read only")
    else modify fun m => { m.unset name with exported := m.exported.filter (· ≠ name) }
  setStatus 0

/-! Options of a script -/

/-- Takes the next option from words: sets a name to its letter, and OPTARG to its
value. -/
def getopts (arguments : List Chars) : Run Unit := do
  match arguments with
  | spec :: name :: given =>
    let m ← get
    let words := if given.isEmpty then m.parameters else given
    let index := ((m.get? "OPTIND".toList).bind Tools.integer?).elim 1 Int.toNat
    let place := if index = m.optionPlace.1 then m.optionPlace.2 else 1
    let silent := spec.head? = some ':'
    let advance (index place : Nat) : Run Unit := do
      assignName "OPTIND".toList (toString index).toList
      modify fun m => { m with optionPlace := (index, place) }
    let finish : Run Unit := do
      advance index 1
      assignName name ['?']
      setStatus 1
    match words[index - 1]? with
    | none => finish
    | some word =>
      if word = ['-', '-'] then
        advance (index + 1) 1
        assignName name ['?']
        setStatus 1
      else if word.head? ≠ some '-' || word.length < 2 then finish
      else
        match word[place]? with
        | none => finish
        | some letter =>
          let isLast := word.length ≤ place + 1
          let known := letter ≠ ':' && spec.contains letter
          let behind := (spec.dropWhile (· ≠ letter)).drop 1
          if !known then
            if isLast then advance (index + 1) 1 else advance index (place + 1)
            assignName name ['?']
            if silent then assignName "OPTARG".toList [letter]
            else
              modify fun m => m.unset "OPTARG".toList
              let _ ← emit m.err ("Illegal option -".toList ++ [letter, '\n'])
            setStatus 0
          else if behind.head? = some ':' then
            let value := if isLast then words[index]? else some (word.drop (place + 1))
            advance (if isLast then index + 2 else index + 1) 1
            match value with
            | some value =>
              assignName name [letter]
              assignName "OPTARG".toList value
            | none =>
              advance (index + 1) 1
              if silent then
                assignName name [':']
                assignName "OPTARG".toList [letter]
              else
                assignName name ['?']
                modify fun m => m.unset "OPTARG".toList
                let _ ← emit m.err ("No arg for -".toList ++ [letter] ++ " option\n".toList)
            setStatus 0
          else
            if isLast then advance (index + 1) 1 else advance index (place + 1)
            assignName name [letter]
            modify fun m => m.unset "OPTARG".toList
            setStatus 0
  | _ => refuse "getopts: Usage: getopts optstring var [arg]"

/-! Directories -/

def workingDirectory : Run String := do
  let m ← get
  pure ((m.directory.bind fun path => (m.files.resolve path).toOption).getD "/")

def cd (arguments : List Chars) : Run Unit := do
  let m ← get
  let arguments := arguments.filter fun a => a ≠ ['-', '-'] && a ≠ ['-', 'L'] && a ≠ ['-', 'P']
  let isBack := arguments.head? = some ['-']
  let target := match arguments with
    | ['-'] :: _ => m.get? "OLDPWD".toList
    | target :: _ => some target
    | [] => m.get? "HOME".toList
  match target with
  | none => refuse "cd: HOME not set"
  | some [] => setStatus 0
  | some target =>
    let path ← pathOf target
    let old ← workingDirectory
    match m.files.find path, m.files.resolve path with
    | .ok .directory, .ok found =>
      set { m with directory := some found }
      assignName "OLDPWD".toList (Chars.ofText old)
      assignName "PWD".toList (Chars.ofText found)
      if isBack then say (Chars.ofText found ++ ['\n']) else setStatus 0
    | _, _ => complain ("cd: can't cd to " ++ textOf target) 2

def pwd : Run Unit := do say (Chars.ofText (← workingDirectory) ++ ['\n'])

/-! Signals -/

def trap (arguments : List Chars) : Run Unit := do
  let arguments := if arguments.head? = some ['-', '-'] then arguments.drop 1 else arguments
  match arguments with
  | [] =>
    let m ← get
    let named (signal : Nat) : Chars :=
      if signal = 0 then "EXIT".toList
      else ((Execution.ExitStatus.signalNames.lookup signal).map fun name =>
        name.toList.drop 3).getD (toString signal).toList
    say ((m.traps.mergeSort fun a b => decide (a.1 ≤ b.1)).flatMap fun (signal, action) =>
      "trap -- ".toList ++ inQuotes action ++ ' ' :: named signal ++ ['\n'])
  | first :: rest =>
    let isSignal := (Tools.signal? first).isSome && first.all Ascii.isDigit
    let (action, names) : Option Chars × List Chars :=
      if first = ['-'] then (none, rest)
      else if isSignal || rest.isEmpty then (none, arguments)
      else (some first, rest)
    let mut failed := false
    for name in names do
      match Tools.signal? name with
      | some signal => modify fun m =>
        let others := m.traps.filter fun entry => entry.1 ≠ signal
        { m with traps := action.elim others fun text => (signal, text) :: others }
      | none =>
        complain ("trap: " ++ textOf name ++ ": bad trap") 1
        failed := true
    setStatus (if failed then 1 else 0)

/-! All of them -/

/-- The commands whose faults end the shell, and which functions do not replace. -/
def specials : List String :=
  [":", ".", "break", "continue", "eval", "exec", "exit", "export", "readonly", "return", "set",
    "shift", "times", "trap", "unset"]

def silent : List String :=
  ["umask", "times", "ulimit", "hash", "alias", "unalias", "jobs", "fg", "bg"]

def leaveLoops (goOn : Bool) (arguments : List Chars) : Run Unit := do
  let levels ← argumentNumber arguments 1
  let m ← get
  if levels = 0 then refuse "Illegal number: 0"
  else if m.loops = 0 then setStatus 0
  else
    setStatus 0
    throw (.leave (min levels m.loops) goOn)

def builtin? (name : String) (arguments : List Chars) : Option (Run Unit) :=
  match name with
  | "exit" => some do throw (.exit ((← argumentNumber arguments (← get).status) % 256))
  | "return" => some do
    setStatus (← argumentNumber arguments (← get).status)
    throw .functionEnd
  | "break" => some (leaveLoops false arguments)
  | "continue" => some (leaveLoops true arguments)
  | "shift" => some (shift arguments)
  | "set" => some do
    setOptions arguments
    setStatus 0
  | "export" => some (exportNames arguments)
  | "readonly" => some (readonly arguments)
  | "local" => some (makeLocal arguments)
  | "unset" => some (unset arguments)
  | "getopts" => some (getopts arguments)
  | "cd" => some (cd arguments)
  | "pwd" => some pwd
  | "trap" => some (trap arguments)
  | _ => if silent.contains name then some (setStatus 0) else none

def runningNames : List String := ["eval", "command", "exec", ".", "wait", "type"]

def noProgram (place : String) (name : Chars) (cause : NoProgram) : Run Unit :=
  let subject := place ++ textOf name
  match cause with
  | .notFound | .notDirectory => complain (subject ++ ": not found") 127
  | .notPermitted => complain (subject ++ ": Permission denied") 126
  | .noFormat => complain (subject ++ ": Exec format error") 126

/-- The program of a name as the shell starts it: a file that does not say what
runs it is a script. -/
def programFor (name : Chars) : Run (Except NoProgram Program) := do
  let m ← get
  match Program.named m.files m.directory name, m.files.read (← pathOf name) with
  | .error .noFormat, .ok content => pure (.ok (.script (Chars.ofBytes content) []))
  | found, _ => pure found

inductive Meaning where
  | keyword
  | function
  | builtin (special : Bool)
  | program (path : Chars)
  | nothing
  deriving DecidableEq, Repr

def keywords : List String :=
  ["!", "\x7b", "\x7d", "case", "do", "done", "elif", "else", "esac", "fi", "for", "if", "in",
    "then", "until", "while"]

def meaningOf (name : Chars) : Run Meaning := do
  let m ← get
  let text := String.ofList name
  if keywords.contains text then pure .keyword
  else if (m.functions.lookup name).isSome then pure .function
  else if runningNames.contains text || (builtin? text []).isSome ||
      (Tools.own? name).isSome then pure (.builtin (specials.contains text))
  else
    match ← programFor name with
    | .ok _ => pure (.program (if name.contains '/' then name else "/usr/bin/".toList ++ name))
    | .error _ => pure .nothing

def showCommand (long : Bool) (name : Chars) : Run Unit := do
  let line (short : Chars) (full : String) : Run Unit :=
    say ((if long then name ++ full.toList else short) ++ ['\n'])
  match ← meaningOf name with
  | .keyword => line name " is a shell keyword"
  | .function => line name " is a shell function"
  | .builtin true => line name " is a special shell builtin"
  | .builtin false => line name " is a shell builtin"
  | .program path => line path (" is " ++ String.ofList path)
  | .nothing =>
    if long then say (name ++ ": not found\n".toList)
    setStatus 127

end Provenance.Shell
