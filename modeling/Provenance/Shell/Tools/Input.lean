import Provenance.Shell.Format
import Provenance.Shell.Redirection

/-!
What tools are given: options and operands, and the texts of the files that operands
name. A text may have no end; of one that does so much is written as no reader wants.
-/

namespace Provenance.Shell.Tools

/-! Options -/

/-- An option: its letter, its long name if it has one, and whether it has a value. -/
structure Choice where
  letter : Char
  long : String
  valued : Bool
  deriving DecidableEq, Repr

def flags (letters : String) : List Choice := letters.toList.map fun c => ⟨c, "", false⟩

def values (letters : String) : List Choice := letters.toList.map fun c => ⟨c, "", true⟩

structure Given where
  options : List (Char × Chars)
  operands : List Chars

namespace Given

def has (g : Given) (letter : Char) : Bool := g.options.any fun o => o.1 = letter

def all (g : Given) (letter : Char) : List Chars :=
  g.options.filterMap fun o => if o.1 = letter then some o.2 else none

def value? (g : Given) (letter : Char) : Option Chars := (g.all letter).getLast?

def number? (g : Given) (letter : Char) : Option Nat := (g.value? letter).map fun text =>
  Ascii.numberOf 10 (text.takeWhile Ascii.isDigit)

end Given

/-- The options in a cluster of letters; the last may take the next argument. -/
def cluster (choices : List Choice) : Chars → List Chars →
    Option (List (Char × Chars) × List Chars)
  | [], rest => some ([], rest)
  | letter :: more, rest => do
    let choice ← choices.find? fun choice => choice.letter = letter
    if choice.valued then
      if more.isEmpty then
        match rest with
        | value :: rest => some ([(letter, value)], rest)
        | [] => none
      else some ([(letter, more)], rest)
    else (cluster choices more rest).map fun (later, rest) => ((letter, []) :: later, rest)

def longOption? (choices : List Choice) (text : Chars) (rest : List Chars) :
    Option ((Char × Chars) × List Chars) := do
  let name := text.takeWhile (· ≠ '=')
  let choice ← (choices.find? fun choice => choice.long.toList = name) <|>
    choices.find? fun choice => name.isPrefixOf choice.long.toList
  match choice.valued, text.drop name.length, rest with
  | true, '=' :: value, rest => some ((choice.letter, value), rest)
  | true, [], value :: rest => some ((choice.letter, value), rest)
  | false, [], rest => some ((choice.letter, []), rest)
  | _, _, _ => none

/-- Splits arguments into options and operands, which may stand in any order, or,
where `strict`, only the options first. -/
def split (choices : List Choice) (strict : Bool) : Nat → List Chars → Option Given
  | 0, _ => none
  | _, [] => some ⟨[], []⟩
  | fuel + 1, argument :: rest =>
    match argument with
    | ['-', '-'] => some ⟨[], rest⟩
    | '-' :: '-' :: name => do
      let (option, rest) ← longOption? choices name rest
      let g ← split choices strict fuel rest
      some { g with options := option :: g.options }
    | '-' :: c :: more => do
      let (options, rest) ← cluster choices (c :: more) rest
      let g ← split choices strict fuel rest
      some { g with options := options ++ g.options }
    | argument =>
      if strict then some ⟨[], argument :: rest⟩
      else (split choices strict fuel rest).map fun g =>
        { g with operands := argument :: g.operands }

def report (tool : String) (message : String) (code : Nat) : Run Unit := do
  let _ ← emit (← get).err (Chars.ofText (tool ++ ": " ++ message ++ "\n"))
  setStatus code

/-- Runs a tool on what it is given, unless there is something wrong with it. -/
def given (tool : String) (code : Nat) (choices : List Choice) (arguments : List Chars)
    (use : Given → Run Unit) : Run Unit := do
  match split choices false (arguments.length + 1) arguments with
  | some g => use g
  | none => report tool "invalid option" code

/-! Texts -/

/-- Writes the same text without end, unless nothing can be written. -/
def flood (unit : Chars) : Run Unit := do
  say (List.replicate (floodSize / unit.length + 1) unit).flatten
  if (← get).status = 0 then throw .writing

def wholeInput : Run Chars := do
  let (text, stop) ← takeArrived
  halt stop
  pure text

def readFault : Files.Fault → String
  | .isDirectory => "Is a directory"
  | .notDirectory => "Not a directory"
  | _ => "No such file or directory"

def isInput (path : String) : Bool := path = "-" || path = inputPath

/-- The text that an operand names, if it can be read; what is wrong is said. -/
def text? (tool : String) (name : Chars) : Run (Option Chars) := do
  let path ← if name = ['-'] then pure "-" else pathOf name
  if isInput path then
    if (← get).input?.isNone then
      report tool "-: Bad file descriptor" 1
      pure none
    else return some (← wholeInput)
  else if path = nullPath then pure (some [])
  else if path = zeroPath then throw .waiting
  else
    match (← get).files.read path with
    | .ok content => pure (some (Chars.ofBytes content))
    | .error cause =>
      report tool (textOf name ++ ": " ++ readFault cause) 1
      pure none

/-- The texts that operands name, with their names; without operands that of standard
input. -/
def texts (tool : String) (operands : List Chars) : Run (List (Chars × Chars)) := do
  let names := if operands.isEmpty then [['-']] else operands
  let found ← names.mapM fun name => do pure ((← text? tool name).map (name, ·))
  pure (found.filterMap id)

/-- Writes what is made of all texts; the status says whether each could be read. -/
def transform (tool : String) (operands : List Chars) (change : List Chars → Chars) : Run Unit := do
  let found ← texts tool operands
  say (change (found.map Prod.snd))
  if found.length < max 1 operands.length then setStatus 1

/-! Lines -/

def linesOf (text : Chars) : List Chars :=
  let pieces := text.splitOn '\n'
  if pieces.getLast? = some [] then pieces.dropLast else pieces

def unlines (lines : List Chars) : Chars := (lines.map fun line => line ++ ['\n']).flatten

/-- Whether the last line of a text has no end. -/
def isUnended (text : Chars) : Bool := text.getLast?.any (· ≠ '\n')

/-- Changes each line of a text, of which the last may stay without an end. -/
def changeLines (change : Chars → Chars) (text : Chars) : Chars :=
  let changed := unlines ((linesOf text).map change)
  if isUnended text then changed.dropLast else changed

def padLeft (width : Nat) (text : Chars) : Chars :=
  List.replicate (width - text.length) ' ' ++ text

def decimal (n : Nat) : Chars := (toString n).toList

end Provenance.Shell.Tools
