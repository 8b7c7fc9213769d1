import Provenance.Shell.Records.Value
import Provenance.Shell.Tools.Input

/-!
The state of a program that goes through records: what its variables hold, the record
with its fields, and what is left to read.
-/

namespace Provenance.Shell.Records

inductive Origin where
  | nowhere
  | arriving
  | text (rest : Chars)

structure State where
  values : List (Chars × Value)
  arrays : List (Chars × List (Chars × Value))
  record : Chars
  fields : Array Value
  frame : List (Chars × Chars × Chars)
  calls : Nat
  operands : List Chars
  origin : Origin
  named : Bool
  opened : List (Chars × Chars)
  written : List Chars
  active : List Nat

inductive Leave where
  | loop
  | turn
  | record
  | exit (code : Option Float)
  | answer (value : Value)
  | failure (message : String)

abbrev Work := ExceptT Leave (StateT State Run)

namespace State

def valueName (s : State) (name : Chars) : Chars := ((s.frame.lookup name).map Prod.fst).getD name

def arrayName (s : State) (name : Chars) : Chars := ((s.frame.lookup name).map Prod.snd).getD name

def get (s : State) (name : Chars) : Value := (s.values.lookup (s.valueName name)).getD .unset

def set (s : State) (name : Chars) (value : Value) : State :=
  let name := s.valueName name
  { s with values := (name, value) :: s.values.filter fun entry => entry.1 ≠ name }

def textOf (s : State) (value : Value) : Chars :=
  value.toText ((s.values.lookup "CONVFMT".toList).getD .unset |>.toText [])

def textIn (s : State) (name : String) : Chars := s.textOf (s.get name.toList)

def items (s : State) (array : Chars) : List (Chars × Value) :=
  (s.arrays.lookup (s.arrayName array)).getD []

def setItems (s : State) (array : Chars) (items : List (Chars × Value)) : State :=
  let name := s.arrayName array
  { s with arrays := (name, items) :: s.arrays.filter fun entry => entry.1 ≠ name }

/-- Sets an item of an array; a new one is the last. -/
def setItem (s : State) (array key : Chars) (value : Value) : State :=
  let items := s.items array
  s.setItems array <|
    if items.any fun item => item.1 = key then
      items.map fun item => if item.1 = key then (key, value) else item
    else items.concat (key, value)

/-! Records -/

def setRecord (s : State) (record : Chars) : State :=
  let separator := s.textIn "FS"
  let pieces :=
    if s.textIn "RS" = [] && separator ≠ [' '] then
      (record.splitOn '\n').flatMap (Separator.ofText separator).split
    else (Separator.ofText separator).split record
  { s with record, fields := (pieces.map Value.input).toArray }.set "NF".toList
    (.ofNat pieces.length)

def join (s : State) : State :=
  { s with
    record := ((s.fields.toList.map s.textOf).intersperse (s.textIn "OFS")).flatten }

def resize (s : State) (count : Nat) : State :=
  let missing := count - s.fields.size
  let fields := s.fields.extract 0 count ++ Array.replicate missing Value.unset
  { s with fields }.set "NF".toList (.ofNat count)

def field (s : State) (number : Nat) : Value :=
  match number with
  | 0 => .input s.record
  | n + 1 => (s.fields[n]?).getD .unset

def setField (s : State) (number : Nat) (value : Value) : State :=
  match number with
  | 0 => s.setRecord (s.textOf value)
  | n + 1 =>
    let s := if s.fields.size ≤ n then s.resize (n + 1) else s
    { s with fields := s.fields.setIfInBounds n (.input (s.textOf value)) }.join

end State

/-! Places -/

inductive Spot where
  | named (name : Chars)
  | item (array key : Chars)
  | field (number : Nat)

def Spot.read (spot : Spot) : Work Value := do
  let s ← get
  match spot with
  | .named name => pure (s.get name)
  | .item array key =>
    match (s.items array).lookup key with
    | some value => pure value
    | none =>
      set (s.setItem array key .unset)
      pure .unset
  | .field number => pure (s.field number)

def Spot.write (spot : Spot) (value : Value) : Work Unit := modify fun s =>
  match spot with
  | .named name =>
    if s.valueName name = "NF".toList then (s.resize (wholeOf value.toNumber).toNat).join
    else s.set name value
  | .item array key => s.setItem array key value
  | .field number => s.setField number value

/-! Reading -/

/-- The first record of a text that is not empty, and what follows it. -/
def recordOf (separator text : Chars) : Chars × Chars :=
  match separator with
  | [] =>
    let text := text.dropWhile (· = '\n')
    let lines := text.splitOn '\n'
    let record := lines.takeWhile (!·.isEmpty)
    let rest := (lines.drop record.length).dropWhile List.isEmpty
    ((record.intersperse ['\n']).flatten, (rest.intersperse ['\n']).flatten)
  | [c] => (text.takeWhile (· ≠ c), (text.dropWhile (· ≠ c)).drop 1)
  | pattern =>
    let subject : Regex.Subject := ⟨text.toArray, false⟩
    match (regexOf? pattern).bind fun r => findIn? r subject 0 with
    | some m =>
      if m.finish ≤ m.start then (text, [])
      else (subject.slice 0 m.start, subject.slice m.finish text.length)
    | none => (text, [])

def givenText (text : Chars) : Chars := ((quoted (text.length + 2) (text ++ ['\x22'])).map
  Prod.fst).getD text

def setting? (operand : Chars) : Option (Chars × Value) :=
  let name := operand.takeWhile isNamePart
  match operand.drop name.length with
  | '=' :: value =>
    if name.isEmpty || name.head?.any Ascii.isDigit then none
    else some (name, .input (givenText value))
  | _ => none

def isSpent (separator text : Chars) : Bool :=
  if separator.isEmpty then text.all (· = '\n') else text.isEmpty

def nextHere : Work (Option Chars) := do
  let s ← get
  let separator := s.textIn "RS"
  let take (text : Chars) : Work (Option Chars) := do
    if isSpent separator text then pure none
    else
      let (record, rest) := recordOf separator text
      modify fun s => { s with origin := .text rest }
      pure (some record)
  match s.origin with
  | .nowhere => pure none
  | .text rest => take rest
  | .arriving =>
    if separator = ['\n'] then
      let (line, ended) ← (takeLine : Run (Chars × Bool))
      if ended || !line.isEmpty then pure (some line) else pure none
    else
      let text ← (Tools.wholeInput : Run Chars)
      take text

def nextRecord : Nat → Work (Option Chars)
  | 0 => pure none
  | fuel + 1 => do
    match ← nextHere with
    | some record =>
      modify fun s =>
        let count (s : State) (name : String) : State :=
          s.set name.toList (.number ((s.get name.toList).toNumber + 1.0))
        count (count s "NR") "FNR"
      pure (some record)
    | none =>
      let s ← get
      match s.operands with
      | [] =>
        if s.named then
          set { s with origin := .nowhere }
          pure none
        else
          set { s with named := true, origin := .arriving }
          nextRecord fuel
      | operand :: rest =>
        match setting? operand with
        | some (name, value) =>
          set ({ s with operands := rest }.set name value)
          nextRecord fuel
        | none =>
          if operand.isEmpty then
            set { s with operands := rest }
            nextRecord fuel
          else
            let origin ←
              if operand = ['-'] then pure Origin.arriving
              else
                match ← (Tools.text? "awk" operand : Run (Option Chars)) with
                | some text => pure (.text text)
                | none => throw (.failure "")
            set ({ s with operands := rest, origin, named := true }.set "FNR".toList
              (.number 0.0) |>.set "FILENAME".toList (.text operand))
            nextRecord fuel

def nextLine (file : Chars) : Work (Option (Option Chars)) := do
  let s ← get
  let text? ← match s.opened.lookup file with
    | some rest => pure (some rest)
    | none =>
      if file = ['-'] then pure (some (← (Tools.wholeInput : Run Chars)))
      else
        let path ← (pathOf file : Run String)
        let files := (← (MonadState.get : Run Machine)).files
        pure ((files.read path).toOption.map Chars.ofBytes)
  match text? with
  | none => pure none
  | some text =>
    let separator := s.textIn "RS"
    let keep (rest : Chars) : Work Unit := modify fun s =>
      { s with opened := (file, rest) :: s.opened.filter fun entry => entry.1 ≠ file }
    if isSpent separator text then
      keep []
      pure (some none)
    else
      let (record, rest) := recordOf separator text
      keep rest
      pure (some (some record))

/-! Writing -/

/-- Writes to standard output, or to a file, which begins anew at first. -/
def write (target : Option (Bool × Chars)) (text : Chars) : Work Unit := do
  match target with
  | none => (say text : Run Unit)
  | some (adds, file) =>
    let s ← get
    let adds := adds || s.written.contains file
    let done : Run Bool := do
      let before ← MonadState.get
      let path ← pathOf file
      let opened ← openSink 1 adds path
      let wrote ← if opened then emit (← MonadState.get).out text else pure false
      modify fun after => { after with channels := before.channels }
      pure wrote
    if !(← done) then throw (.failure ("cannot open " ++ Provenance.Shell.textOf file))
    set { s with written := file :: s.written }

end Provenance.Shell.Records
