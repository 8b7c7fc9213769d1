import Provenance.Shell.Tools.Input

/-!
The tools that copy a text or a part of it.
-/

namespace Provenance.Shell.Tools

def yes (arguments : List Chars) : Run Unit :=
  let words := if arguments.isEmpty then [['y']] else arguments
  flood ((words.intersperse [' ']).flatten ++ ['\n'])

/-! Whole texts -/

def copyInput : Run Unit := do
  let (text, stop) ← takeArrived
  say text
  halt stop

def visible (c : Char) : Chars :=
  let n := c.toNat
  let low (n : Nat) : Chars :=
    if n < 32 then ['^', Char.ofNat (n + 64)] else if n = 127 then ['^', '?'] else [Char.ofNat n]
  if 128 ≤ n then 'M' :: '-' :: low (n - 128) else low n

structure Display where
  numbers : Option Bool
  squeezes : Bool
  ends : Bool
  tabs : Bool
  marks : Bool

namespace Display

def ofGiven (g : Given) : Display where
  numbers := if g.has 'b' then some false else if g.has 'n' then some true else none
  squeezes := g.has 's'
  ends := g.has 'E' || g.has 'A' || g.has 'e'
  tabs := g.has 'T' || g.has 'A' || g.has 't'
  marks := g.has 'v' || g.has 'A' || g.has 'e' || g.has 't'

/-- Leaves one of neighbouring lines without characters. -/
def squeeze : List Chars → List Chars
  | [] :: [] :: rest => squeeze ([] :: rest)
  | line :: rest => line :: squeeze rest
  | [] => []

def number (blank : Bool) : Nat → List Chars → List Chars
  | _, [] => []
  | n, line :: rest =>
    if line.isEmpty && !blank then line :: number blank n rest
    else (padLeft 6 (decimal n) ++ '\t' :: line) :: number blank (n + 1) rest

def render (d : Display) (text : Chars) : Chars :=
  let lines := linesOf text
  let lines := if d.squeezes then squeeze lines else lines
  let lines := lines.map fun line => line.flatMap fun c =>
    if c = '\t' then (if d.tabs then ['^', 'I'] else [c]) else if d.marks then visible c else [c]
  let lines := match d.numbers with
    | some blank => number blank 1 lines
    | none => lines
  let finish : Chars := if d.ends then ['$', '\n'] else ['\n']
  let shown := (lines.map (· ++ finish)).flatten
  if isUnended text then shown.take (shown.length - finish.length) else shown

end Display

def cat (arguments : List Chars) : Run Unit :=
  let long : List Choice := [⟨'n', "number", false⟩, ⟨'A', "show-all", false⟩]
  given "cat" 1 (long ++ flags "bsETvetu") arguments fun g => do
    if g.options.any fun o => o.1 ≠ 'u' then
      transform "cat" g.operands fun texts => (Display.ofGiven g).render texts.flatten
    else
      let mut failed := false
      for name in (if g.operands.isEmpty then [['-']] else g.operands) do
        let path ← if name = ['-'] then pure "-" else pathOf name
        if isInput path && (← get).input?.isSome then copyInput
        else if path = zeroPath then flood ['\x00']
        else
          match ← text? "cat" name with
          | some text => say text
          | none => failed := true
      if failed then setStatus 1

/-! Parts of a text -/

def firstLines : Nat → Chars → Chars
  | 0, _ => []
  | _, [] => []
  | count + 1, text =>
    let line := text.takeWhile (· ≠ '\n')
    let rest := text.drop line.length
    line ++ rest.take 1 ++ firstLines count (rest.drop 1)

/-- How many lines a text has, the last of which may have no end. -/
def lineCount (text : Chars) : Nat :=
  (text.filter (· = '\n')).length + if isUnended text then 1 else 0

/-- A part of a text: so many lines or bytes, from the front or up to so many from the
end; or those at the end, or from one onward. -/
structure Portion where
  bytes : Bool
  sign : Option Char
  count : Nat

namespace Portion

def scales : List (String × Nat) :=
  [("", 1), ("b", 512), ("k", 1024), ("K", 1024), ("kB", 1000), ("KB", 1000), ("KiB", 1024),
    ("M", 1024 ^ 2), ("MB", 1000 ^ 2), ("MiB", 1024 ^ 2), ("G", 1024 ^ 3), ("GB", 1000 ^ 3)]

def ofText? (bytes : Bool) (text : Chars) : Option Portion := do
  let sign := text.head?.filter fun c => c = '+' || c = '-'
  let number := if sign.isSome then text.drop 1 else text
  let digits := number.takeWhile Ascii.isDigit
  let scale ← scales.lookup (String.ofList (number.drop digits.length))
  if digits.isEmpty then none else some ⟨bytes, sign, Ascii.numberOf 10 digits * scale⟩

def front (p : Portion) (text : Chars) : Chars :=
  match p.bytes, p.sign == some '-' with
  | true, false => text.take p.count
  | true, true => text.take (text.length - p.count)
  | false, false => firstLines p.count text
  | false, true => firstLines (lineCount text - p.count) text

def behind (p : Portion) (text : Chars) : Chars :=
  match p.bytes, p.sign == some '+' with
  | true, false => text.drop (text.length - p.count)
  | true, true => text.drop (p.count - 1)
  | false, false => text.drop (firstLines (lineCount text - p.count) text).length
  | false, true => text.drop (firstLines (p.count - 1) text).length

end Portion

def copyLines : Nat → Run Unit
  | 0 => setStatus 0
  | count + 1 => do
    let (line, ended) ← takeLine
    if ended then
      say (line ++ ['\n'])
      copyLines count
    else say line

def readSize : Nat := 8192

def readAhead (used : Nat) : Run Unit := modify fun m =>
  match m.input? with
  | some source =>
    let blocks := (used + readSize - 1) / readSize * readSize
    m.leaveInput (source.stream.arrived.drop (if source.keeps then used else blocks))
  | none => m

/-- Writes the first part of standard input. -/
def copyFront (p : Portion) : Run Unit := do
  match (← get).input?, p.sign == some '-' with
  | none, _ => report "head" "error reading 'standard input': Bad file descriptor" 1
  | some _, true => say (p.front (← wholeInput))
  | some source, false =>
    if p.bytes then say (← takeBytes p.count)
    else if source.stream.closed then
      let found := p.front (Chars.ofBytes source.stream.arrived)
      readAhead found.length
      say found
    else copyLines p.count

/-- The options for a part of a text, an old way to give a number of lines included. -/
def portionArguments : List Chars → List Chars
  | ('-' :: n) :: rest =>
    if !n.isEmpty && n.all Ascii.isDigit then ['-', 'n'] :: n :: rest else ('-' :: n) :: rest
  | arguments => arguments

/-- Writes a part of each operand, with a line of its name before it if there is more
than one. -/
def portions (tool : String) (arguments : List Chars) (part : Portion → Chars → Chars)
    (ofInput : Portion → Run Unit) : Run Unit :=
  let choices := [⟨'n', "lines", true⟩, ⟨'c', "bytes", true⟩, ⟨'q', "quiet", false⟩,
    ⟨'v', "verbose", false⟩, ⟨'f', "follow", false⟩]
  given tool 1 choices (portionArguments arguments) fun g => do
    let chosen := (g.options.filter fun o => o.1 = 'n' || o.1 = 'c').getLast?
    match chosen.elim (some ⟨false, none, 10⟩) fun o => Portion.ofText? (o.1 = 'c') o.2 with
    | none => report tool "invalid number" 1
    | some p =>
      let names := if g.operands.isEmpty then [['-']] else g.operands
      let titled := (1 < names.length || g.has 'v') && !g.has 'q'
      let mut failed := false
      let mut isFirst := true
      for name in names do
        let path ← if name = ['-'] then pure "-" else pathOf name
        let title : Chars := if name = ['-'] then "standard input".toList else name
        let opening : Chars := if !titled then [] else
          (if isFirst then [] else ['\n']) ++ "==> ".toList ++ title ++ " <==\n".toList
        if isInput path then
          say opening
          ofInput p
        else if path = zeroPath then
          if p.bytes then say (List.replicate p.count '\x00') else flood ['\x00']
        else
          match ← text? tool name with
          | some text => say (opening ++ part p text)
          | none => failed := true
        isFirst := false
      if failed then setStatus 1
      if g.has 'f' then throw .waiting

def head (arguments : List Chars) : Run Unit := portions "head" arguments Portion.front copyFront

def tail (arguments : List Chars) : Run Unit :=
  portions "tail" arguments Portion.behind fun p => do say (p.behind (← wholeInput))

def tee (arguments : List Chars) : Run Unit :=
  given "tee" 1 [⟨'a', "append", false⟩, ⟨'i', "ignore-interrupts", false⟩] arguments fun g => do
    let m ← get
    let mut sinks := [m.out]
    let mut failed := false
    for name in g.operands do
      if ← openSink 1 (g.has 'a') (← pathOf name) then sinks := sinks.concat (← get).out
      else
        report "tee" (textOf name ++ ": No such file or directory") 1
        failed := true
      modify fun after => { after with channels := m.channels }
    let (text, stop) ← takeArrived
    for sink in sinks do
      if !(← emit sink text) then failed := true
    halt stop
    setStatus (if failed then 1 else 0)

/-!
Copying a text block by block. What is asked for stands in settings, each a name and a
value.
-/

/-- A size: a number with what multiplies it, and more of them behind crosses. -/
def sizeOf? (text : Chars) : Option Nat :=
  (text.splitOn 'x').foldlM (fun size factor =>
    let factor := match factor.getLast? with
      | some 'c' => factor.dropLast
      | _ => factor
    (Portion.ofText? true factor).map fun p => size * p.count) 1

structure Copying where
  settings : List (String × Chars)

namespace Copying

def names : List String :=
  ["if", "of", "bs", "ibs", "obs", "count", "skip", "seek", "conv", "status", "iflag", "oflag"]

def ofArguments? (arguments : List Chars) : Option Copying := do
  let settings := arguments.map fun argument =>
    let name := argument.takeWhile (· ≠ '=')
    (String.ofList name, argument.drop (name.length + 1))
  if settings.all fun s => names.contains s.1 then some ⟨settings⟩ else none

def value? (c : Copying) (name : String) : Option Chars := c.settings.reverse.lookup name

def has (c : Copying) (name word : String) : Bool :=
  (((c.value? name).getD []).splitOn ',').contains word.toList

def size (c : Copying) (names : List String) (standard : Nat) : Nat :=
  ((names.findSome? c.value?).bind sizeOf?).getD standard

def blockIn (c : Copying) : Nat := c.size ["bs", "ibs"] 512

def blockOut (c : Copying) : Nat := c.size ["bs", "obs"] 512

def count? (c : Copying) : Option Nat := (c.value? "count").bind sizeOf?

def change (c : Copying) (text : Chars) : Chars :=
  if c.has "conv" "ucase" then text.map Char.toUpper
  else if c.has "conv" "lcase" then text.map Char.toLower
  else text

/-- The numbers of whole blocks and of others in a text. -/
def records (block : Nat) (text : Chars) : String :=
  toString (text.length / block) ++ "+" ++ (if text.length % block = 0 then "0" else "1")

end Copying

/-- Reads blocks, at most so many; each is what has arrived, unless it is too long. -/
def takeBlocks (block : Nat) : Nat → Run Chars
  | 0 => pure []
  | count + 1 => do
    match (← get).input? with
    | none => pure []
    | some source =>
      if source.stream.arrived.isEmpty then
        halt source.stop?
        pure []
      else
        let taken ← takeBytes (min block source.stream.arrived.length)
        pure (taken ++ (← takeBlocks block count))

/-- Copies as settings say, behind a number of bytes of what the target held. -/
def copyBlocks (c : Copying) (old : Chars) : Run Unit := do
  let place := c.blockOut * c.size ["seek"] 0
  say ((old ++ List.replicate place '\x00').take place)
  let _ ← takeBlocks c.blockIn (c.size ["skip"] 0)
  let text ← match c.count? with
    | some count => takeBlocks c.blockIn count
    | none =>
      let (text, stop) ← takeArrived
      if stop.isSome then say (c.change text)
      halt stop
      pure text
  say (c.change text)
  if c.has "conv" "notrunc" then say (old.drop (place + text.length))
  if !c.has "status" "none" then
    let report := Copying.records c.blockIn text ++ " records in\n" ++
      Copying.records c.blockOut text ++ " records out\n"
    let _ ← emit (← get).err (Chars.ofText report)

def dd (arguments : List Chars) : Run Unit := do
  match Copying.ofArguments? arguments with
  | none => report "dd" "unrecognized operand" 1
  | some c =>
    let before ← get
    let source ← match c.value? "if" with
      | some name => openSource 0 (← pathOf name)
      | none => pure true
    let ready ← match source, c.value? "of" with
      | false, _ => pure none
      | true, none => pure (some [])
      | true, some name =>
        let path ← pathOf name
        let old := ((← get).files.read path).toOption.getD []
        pure (if ← openSink 1 false path then some (Chars.ofBytes old) else none)
    match ready with
    | none => report "dd" "failed to open" 1
    | some old => copyBlocks c old
    modify fun after => { after with channels := before.channels }

end Provenance.Shell.Tools
