import Provenance.Shell.Class
import Provenance.Shell.Tools.Input

/-!
The tools that write what they are given, wait, read a line or send signals.
-/

namespace Provenance.Shell.Tools

def echo (arguments : List Chars) : Run Unit := do
  let (ends, arguments) := match arguments with
    | ['-', 'n'] :: rest => (false, rest)
    | all => (true, all)
  let (text, stops) := unescaped ((arguments.intersperse [' ']).flatten)
  say (if ends && !stops then text ++ ['\n'] else text)
  if (← get).status ≠ 0 then complain "echo: echo: I/O error" 1

def echoProgram (arguments : List Chars) : Run Unit :=
  let isOption : Chars → Bool
    | '-' :: letter :: letters => (letter :: letters).all "neE".toList.contains
    | _ => false
  let options := (arguments.takeWhile isOption).flatten
  let words := arguments.dropWhile isOption
  let text := (words.intersperse [' ']).flatten
  let (text, stops) := if options.reverse.find? "eE".toList.contains = some 'e' then unescaped text
    else (text, false)
  say (if options.contains 'n' || stops then text else text ++ ['\n'])

def printf (arguments : List Chars) : Run Unit := do
  let arguments := if arguments.head? = some ['-', '-'] then arguments.drop 1 else arguments
  match arguments with
  | [] => complain "printf: usage: printf format [arg ...]" 2
  | ('-' :: c :: _) :: _ => complain ("printf: Illegal option -" ++ textOf [c]) 2
  | text :: arguments =>
    let (text, fault) := format (arguments.length + 1) text arguments
    say text
    if (← get).status ≠ 0 then complain "printf: printf: I/O error" 1
    match fault with
    | none => pure ()
    | some .badArgument => complain "printf: expected numeric value" 1
    | some (.badDirective directive) =>
      complain ("printf: " ++ textOf directive ++ ": invalid directive") 2
    | some .unfinished => complain "printf: missing format character" 2

def forever : Nat := 10 ^ 30

def timeOf? (text : Chars) : Option Nat := do
  let unit (c : Char) : Option Nat := [('s', 1), ('m', 60), ('h', 3600), ('d', 86400)].lookup c
  let scale ← unit (text.getLast?.getD 's') <|> some 1
  let text := if (text.getLast?.bind unit).isSome then text.dropLast else text
  if ["infinity", "inf"].contains (String.ofList text) then some forever
  else
    let whole := text.takeWhile Ascii.isDigit
    let rest := text.drop whole.length
    let part := (rest.drop 1).takeWhile Ascii.isDigit
    if (whole ++ part).isEmpty || !(rest.isEmpty || rest = '.' :: part) then none
    else
      let digits := (part ++ List.replicate 9 '0').take 9
      some ((Ascii.numberOf 10 whole * 10 ^ 9 + Ascii.numberOf 10 digits) * scale)

def sleep (arguments : List Chars) : Run Unit := do
  match arguments.mapM timeOf? with
  | none => report "sleep" "invalid time interval" 1
  | some [] => report "sleep" "missing operand" 1
  | some times =>
    pass (times.foldl (· + ·) 0)
    setStatus 0

def uname (arguments : List Chars) : Run Unit :=
  given "uname" 1 (flags "amnprsvio") arguments fun g => do
    let shown : List (Char × String) := [('s', "Linux"), ('m', "x86_64"), ('o', "GNU/Linux")]
    let asked := if g.options.isEmpty then ['s'] else g.options.map Prod.fst
    let texts := shown.filterMap fun (letter, text) =>
      if asked.contains letter || asked.contains 'a' then some text.toList else none
    say ((texts.intersperse [' ']).flatten ++ ['\n'])

def userName : String := "root"

def whoami (_ : List Chars) : Run Unit := say (Chars.ofText (userName ++ "\n"))

def identity (arguments : List Chars) : Run Unit :=
  given "id" 1 (flags "ugGn") arguments fun g => do
    let one := userName.toList
    let all := "0(".toList ++ one ++ [')']
    let line := if g.has 'n' then one
      else if !g.options.isEmpty then ['0']
      else "uid=".toList ++ all ++ " gid=".toList ++ all ++ " groups=".toList ++ all
    say (line ++ ['\n'])

/-! Signals -/

/-- The number of a signal by its number or name; zero stands for the end of a shell. -/
def signal? (text : Chars) : Option Nat :=
  if !text.isEmpty && text.all Ascii.isDigit then some (Ascii.numberOf 10 text)
  else
    let name := String.ofList text
    if name = "EXIT" then some 0
    else (Execution.ExitStatus.signalNames.find? fun entry =>
      entry.2 = name || entry.2 = "SIG" ++ name).map Prod.fst

def harmless : List Nat := [0, 17, 18, 23, 28]

def halting : List Nat := [19, 20, 21, 22]

def absolute : List Nat := [9, 19]

def receive (signal : Nat) : Run Unit := do
  match (← get).traps.lookup signal with
  | some action =>
    if absolute.contains signal || signal = 0 then default
    else if action.isEmpty then setStatus 0
    else modify fun m => { m with signals := m.signals.concat signal, status := 0 }
  | none => default
where
  default : Run Unit :=
    if harmless.contains signal then setStatus 0
    else if halting.contains signal then throw .waiting
    else throw (.ended (.killed signal))

def jobOf? (m : Machine) (word : Chars) : Option Nat :=
  match word with
  | '%' :: rest =>
    if rest.all Ascii.isDigit && !rest.isEmpty then some (Ascii.numberOf 10 rest)
    else some m.started
  | word =>
    let n := Ascii.numberOf 10 word
    if word.all Ascii.isDigit && Machine.processNumber < n &&
        n ≤ Machine.processNumber + m.started then some (n - Machine.processNumber)
    else none

def sendSignal (signal : Nat) (word : Chars) : Run Unit := do
  let m ← get
  if word = (toString Machine.processNumber).toList || word = ['0'] then receive signal
  else
    match (jobOf? m word).filter fun n => m.jobs.any fun job => job.number = n with
    | none => complain "kill: No such process" 1
    | some number =>
      if !harmless.contains signal && !halting.contains signal then
        set { m with
          jobs := m.jobs.filter fun job => job.number ≠ number
          finished := (number, 128 + signal) :: m.finished }
      setStatus 0

def kill (arguments : List Chars) : Run Unit := do
  let (signal, targets) := match arguments with
    | ['-', 's'] :: name :: rest => (signal? name, rest)
    | ['-', '-'] :: rest => (some 15, rest)
    | ('-' :: name) :: rest => (signal? name, rest)
    | rest => (some 15, rest)
  match signal with
  | none => complain "kill: invalid signal number or name" 2
  | some signal =>
    let targets := if targets.head? = some ['-', '-'] then targets.drop 1 else targets
    if targets.isEmpty then
      complain "kill: Usage: kill [-s sigspec | -signum | -sigspec] [pid | job]..." 2
    else
      let mut failed := false
      for target in targets do
        sendSignal signal target
        if (← get).status ≠ 0 then failed := true
      setStatus (if failed then 1 else 0)

/-! Reading -/

abbrev Read := Char × Bool

/-- What a line is read as: a backslash takes the meaning of the next character. -/
def withoutBackslashes : Chars → List Read
  | '\\' :: c :: rest => (c, true) :: withoutBackslashes rest
  | ['\\'] => []
  | c :: rest => (c, false) :: withoutBackslashes rest
  | [] => []

def dropBlanks (separators : Chars) (text : List Read) : List Read :=
  text.dropWhile fun (c, kept) => !kept && separators.contains c && " \t\n".toList.contains c

/-- Divides a line into the texts of so many names, the last of which gets all that is
left. -/
def readFields (separators : Chars) : Nat → List Read → List Chars
  | 0, _ => []
  | count + 1, text =>
    let divides (r : Read) : Bool := !r.2 && separators.contains r.1
    let field := text.takeWhile fun r => !divides r
    let rest := dropBlanks separators (text.drop field.length)
    let rest := match rest with
      | r :: more => if divides r then dropBlanks separators more else rest
      | [] => []
    match count, rest with
    | 0, _ :: _ =>
      [((dropBlanks separators text.reverse).reverse).map Prod.fst]
    | 0, [] => [field.map Prod.fst]
    | count, rest => field.map Prod.fst :: readFields separators count rest

def isContinued (line : Chars) : Bool := (line.reverse.takeWhile (· = '\\')).length % 2 = 1

def takeContinued (raw : Bool) : Nat → Run (Chars × Bool)
  | 0 => takeLine
  | fuel + 1 => do
    let (line, ended) ← takeLine
    if !raw && ended && isContinued line then
      let (more, ended) ← takeContinued raw fuel
      pure (line.dropLast ++ more, ended)
    else pure (line, ended)

def maxContinued : Nat := 10000

def read (arguments : List Chars) : Run Unit := do
  let choices := flags "r" ++ values "p"
  match split choices true (arguments.length + 1) arguments with
  | none => complain "read: Illegal option" 2
  | some g =>
    if g.operands.isEmpty then complain "read: arg count" 2
    else if (← get).input?.isNone then
      for name in g.operands do assignName name []
      setStatus 1
    else
      let (line, ended) ← takeContinued (g.has 'r') maxContinued
      let line := line.filter (· ≠ '\x00')
      let text := if g.has 'r' then line.map (·, false) else withoutBackslashes line
      let separators := (← get).separators
      let fields := readFields separators g.operands.length (dropBlanks separators text)
      for (name, place) in g.operands.zipIdx do
        assignName name ((fields[place]?).getD [])
      setStatus (if ended then 0 else 1)

end Provenance.Shell.Tools
