import Provenance.Execution.Process
import Provenance.Files.Tree
import Provenance.Shell.Word
import Provenance.Text.Basic
import Provenance.Text.Utf8

/-!
The state of a shell while it runs a script, and what can stop it. A shell waits
when it reads from a stream on which more may come, or sleeps; if that takes it
past its deadline, nothing later is seen.
-/

namespace Provenance.Shell

inductive Sink where
  /-- What is collected: at level zero the output of the process, above it what is
  put into a word or a pipe. -/
  | output (level : Nat)
  | errors
  | nowhere
  | closed
  | file (path : String)
  deriving DecidableEq, Repr

/-- What a descriptor stands for. Descriptors for the same source take from each
other. -/
inductive Channel where
  | sink (sink : Sink)
  | source (index : Nat)
  deriving DecidableEq, Repr

inductive Stop where
  | waiting
  | writing
  | ended (status : Execution.ExitStatus)
  | exit (code : Nat)
  | leave (levels : Nat) (goOn : Bool)
  | functionEnd
  deriving DecidableEq, Repr

structure Source where
  stream : Execution.Stream
  keeps : Bool
  /-- Whether more comes whenever it is read, if it is not closed. -/
  endless : Bool := false
  deriving DecidableEq, Repr

/-- What stops one who reads on behind all that has arrived, unless that is the end. -/
def Source.stop? (s : Source) : Option Stop :=
  if s.stream.closed then none else some (if s.endless then .writing else .waiting)

def Source.ended (arrived : Bytes) (keeps : Bool) : Source := ⟨⟨arrived, true⟩, keeps, false⟩

structure Options where
  strict : Bool := false
  bound : Bool := false
  trace : Bool := false
  plain : Bool := false
  exports : Bool := false
  deriving DecidableEq, Repr

/-- What a shell has of its own; a shell inside it changes a copy. -/
structure Scene where
  bindings : List (Chars × Chars)
  exported : List Chars
  fixed : List Chars
  functions : List (Chars × Command)
  name : Chars
  parameters : List Chars
  locals : List (Chars × Option Chars)
  loops : Nat
  /-- The word of a script's arguments that was looked at for options, and the place in it
  where the next one is. -/
  optionPlace : Nat × Nat
  options : Options
  tested : Bool
  channels : List (Nat × Channel)
  traps : List (Nat × Chars)
  directory : Option String
  status : Nat
  line : Nat

structure Job where
  number : Nat
  scene : Scene
  command : Command
  start : Nat

structure Machine extends Scene where
  files : Files.Tree
  sources : List Source
  collected : List (List Bytes)
  /-- The pieces that were written about errors, the newest first. -/
  complaints : List Bytes
  jobs : List Job
  started : Nat
  finished : List (Nat × Nat)
  signals : List Nat
  now : Nat
  deadline : Nat

abbrev Run := ExceptT Stop (StateM Machine)

namespace Machine

def get? (m : Machine) (name : Chars) : Option Chars := m.bindings.lookup name

def set (m : Machine) (name value : Chars) : Machine :=
  { m with bindings := (name, value) :: m.bindings.filter fun entry => entry.1 ≠ name }

def unset (m : Machine) (name : Chars) : Machine :=
  { m with bindings := m.bindings.filter fun entry => entry.1 ≠ name }

/-! Descriptors -/

def sink (m : Machine) (descriptor : Nat) : Sink :=
  match m.channels.lookup descriptor with
  | some (.sink sink) => sink
  | _ => .closed

def out (m : Machine) : Sink := m.sink 1

def err (m : Machine) : Sink := m.sink 2

def connect (m : Machine) (descriptor : Nat) (channel : Channel) : Machine :=
  { m with channels := (descriptor, channel) :: m.channels.filter fun c => c.1 ≠ descriptor }

def disconnect (m : Machine) (descriptor : Nat) : Machine :=
  { m with channels := m.channels.filter fun c => c.1 ≠ descriptor }

def feed (m : Machine) (descriptor : Nat) (source : Source) : Machine :=
  { m with sources := m.sources ++ [source] }.connect descriptor (.source m.sources.length)

def input? (m : Machine) : Option Source :=
  match m.channels.lookup 0 with
  | some (.source index) => m.sources[index]?
  | _ => none

def leaveInput (m : Machine) (arrived : Bytes) : Machine :=
  match m.channels.lookup 0 with
  | some (.source index) =>
    { m with sources := m.sources.modify index fun s => { s with stream.arrived := arrived } }
  | _ => m

/-! What was written -/

def collectedAt (m : Machine) (level : Nat) : Bytes :=
  ((m.collected[level]?).getD []).reverse.flatten

def output (m : Machine) : Bytes := m.collectedAt 0

def errors (m : Machine) : Bytes := m.complaints.reverse.flatten

/-! Values -/

def processNumber : Nat := 4242

def parentNumber : Chars × Chars := ("PPID".toList, (toString (processNumber - 1)).toList)

def separators (m : Machine) : Chars := (m.get? "IFS".toList).getD " \t\n".toList

def optionLetters (m : Machine) : Chars :=
  [(m.options.strict, 'e'), (m.options.plain, 'f'), (m.options.trace, 'x'),
    (m.options.exports, 'a'), (m.options.bound, 'u')].filterMap fun (isSet, letter) =>
      if isSet then some letter else none

def value? (m : Machine) (name : Chars) : Option Chars :=
  match name with
  | ['?'] => some (toString m.status).toList
  | ['#'] => some (toString m.parameters.length).toList
  | ['$'] => some (toString processNumber).toList
  | ['0'] => some m.name
  | ['-'] => some m.optionLetters
  | ['!'] =>
    if m.started = 0 then none else some (toString (processNumber + m.started)).toList
  | ['@'] | ['*'] =>
    if m.parameters.isEmpty then none
    else some ((m.parameters.intersperse (m.separators.take 1)).flatten)
  | name =>
    if !name.isEmpty && name.all Ascii.isDigit then
      m.parameters[Ascii.numberOf 10 name - 1]?
    else m.get? name

end Machine

def textOf (text : Chars) : String := Utf8.decodeLenient text.toBytes

def pathOf (text : Chars) : Run String := do
  let path := textOf text
  match (← get).directory with
  | some directory => pure (if path.isEmpty then path else Files.joinPath directory path)
  | none => pure path

def emit (sink : Sink) (text : Chars) : Run Bool := do
  let bytes := Chars.toBytes text
  match sink with
  | .output level =>
    modify fun m => { m with collected := m.collected.modify level (bytes :: ·) }
    pure true
  | .errors => modify fun m => { m with complaints := bytes :: m.complaints }; pure true
  | .nowhere => pure true
  | .closed => pure false
  | .file path =>
    let m ← get
    let old := (m.files.read path).toOption.getD []
    match m.files.write path (old ++ bytes) with
    | .ok files => set { m with files }; pure true
    | .error _ => pure false

def setStatus (code : Nat) : Run Unit := modify fun m => { m with status := code }

/-- Writes to standard output; a command that cannot has failed. -/
def say (text : Chars) : Run Unit := do
  if ← emit (← get).out text then setStatus 0 else setStatus 1

/-- Writes a message about what went wrong, and sets the status. -/
def complain (message : String) (code : Nat) : Run Unit := do
  let m ← get
  let place := m.name ++ ": ".toList ++ (toString m.line).toList ++ ": ".toList
  let _ ← emit m.err (place ++ Chars.ofText message ++ ['\n'])
  setStatus code

/-- Ends the shell because of what a message says. -/
def refuse {α : Type} (message : String) : Run α := do
  complain message 2
  throw (.exit 2)

def assignName (name value : Chars) : Run Unit := do
  if (← get).fixed.contains name then refuse (textOf name ++ ": is read only")
  else modify fun m =>
    let m := m.set name value
    if m.options.exports then { m with exported := name :: m.exported } else m

def pass (time : Nat) : Run Unit := do
  let m ← get
  if m.deadline < m.now + time then
    set { m with now := m.deadline }
    throw .waiting
  else set { m with now := m.now + time }

def takeArrived : Run (Chars × Option Stop) := do
  let m ← get
  match m.input? with
  | none => pure ([], none)
  | some source =>
    set (m.leaveInput [])
    pure (Chars.ofBytes source.stream.arrived, source.stop?)

def halt (stop : Option Stop) : Run Unit :=
  match stop with
  | some stop => throw stop
  | none => pure ()

/-- Takes the next line without its end, and whether the end was there. -/
def takeLine : Run (Chars × Bool) := do
  let m ← get
  match m.input? with
  | none => pure ([], false)
  | some source =>
    let line := source.stream.arrived.takeWhile (· ≠ 10)
    let behind := source.stream.arrived.drop line.length
    if behind.isEmpty then halt source.stop?
    set (m.leaveInput (behind.drop 1))
    pure (Chars.ofBytes line, !behind.isEmpty)

def takeBytes (count : Nat) : Run Chars := do
  let m ← get
  match m.input? with
  | none => pure []
  | some source =>
    set (m.leaveInput (source.stream.arrived.drop count))
    let taken := Chars.ofBytes (source.stream.arrived.take count)
    if taken.length < count && source.stop?.isSome then
      let _ ← emit m.out taken
      halt source.stop?
    pure taken

end Provenance.Shell
