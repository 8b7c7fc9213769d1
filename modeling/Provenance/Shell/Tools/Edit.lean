import Provenance.Shell.Edit
import Provenance.Shell.Tools.Input

/-!
Editing texts by scripts: the lines come into a space one by one, and what is there
at the end of the script is written.
-/

namespace Provenance.Shell.Tools

open Edit

namespace Editor

structure State where
  lines : List (Chars × Bool)
  /-- Whether lines may come of which nothing is known yet. -/
  more : Bool
  number : Nat
  space : Chars
  ended : Bool
  hold : Chars
  queue : List Chars
  /-- What was written, the last first, and whether the end of a line is missing. -/
  output : List Chars
  unended : Bool
  replaced : Bool
  active : List (Nat × Option Nat)
  last : Option Regex
  files : List (Chars × Chars)

inductive Outcome where
  | finished
  | deleted
  | again
  | quit (prints : Bool) (code : Nat)
  | endless
  deriving DecidableEq, Repr

structure Setting where
  steps : Array Step
  silent : Bool
  mark : Char
  read : Chars → Option Chars

namespace State

/-- Writes a text; the end of the line before it is written first if it is missing. -/
def put (s : State) (mark : Char) (text : Chars) : State :=
  if text.isEmpty then s
  else
    let before := if s.unended then [[mark]] else []
    { s with output := text :: (before ++ s.output), unended := false }

def putLine (s : State) (mark : Char) (line : Chars) : State :=
  if s.ended then s.put mark (line ++ [mark])
  else
    let before := if s.unended then [[mark]] else []
    { s with output := line :: (before ++ s.output), unended := true }

def isLast (s : State) : Bool := s.lines.isEmpty && !s.more

def flush (s : State) (mark : Char) : State :=
  { s.queue.foldl (fun s text => s.put mark text) s with queue := [] }

def take (s : State) (adds : Bool) (mark : Char) : Option State :=
  match s.lines with
  | [] => none
  | (line, ended) :: rest =>
    some { s with
      lines := rest, number := s.number + 1, ended
      space := if adds then s.space ++ mark :: line else line }

end State

def find? (s : State) (e : Expression) (source : Nat) : State × Option Regex.Match :=
  match e.regex <|> s.last with
  | none => (s, none)
  | some r =>
    ({ s with last := some r },
      r.find? ⟨s.space.toArray, e.ignoresCase⟩ source fun _ _ => true)

def isAt (s : State) : Address → State × Bool
  | .line n => (s, s.number = n)
  | .last => (s, s.isLast)
  | .expression e =>
    let (s, found) := find? s e 0
    (s, found.isSome)
  | .every first step =>
    (s, if step = 0 then s.number = first
      else first ≤ s.number && (s.number - first) % step = 0)
  | .behind _ | .multiple _ => (s, false)

def isSelected (s : State) (index : Nat) (selection : Selection) : State × Bool :=
  let (s, selected) : State × Bool :=
    match selection.first, selection.second with
    | none, _ => (s, true)
    | some first, none => isAt s first
    | some first, some second =>
      let stop (s : State) : State :=
        { s with active := s.active.filter fun entry => entry.1 ≠ index }
      match s.active.lookup index with
      | some (some line) =>
        if line ≤ s.number then (stop s, s.number ≤ line) else (s, true)
      | some none =>
        let (s, found) := isAt s second
        (if found then stop s else s, true)
      | none =>
        let (s, found) := isAt s first
        if !found then (s, false)
        else
          let start (until? : Option Nat) : State :=
            { s with active := (index, until?) :: s.active }
          match second with
          | .line n => (if n ≤ s.number then s else start (some n), true)
          | .behind n => (if n = 0 then s else start (some (s.number + n)), true)
          | .multiple n =>
            (if n = 0 || s.number % n = 0 then s else
              start (some ((s.number / n + 1) * n)), true)
          | _ => (start none, true)
  (s, selected != selection.negated)

/-! Putting in place -/

/-- Puts together what is inserted, changing letters as it says. -/
def build (s : State) (m : Regex.Match) (insertions : List Insertion) : Chars :=
  let group (n : Nat) : Chars :=
    let (a, b) := if n = 0 then (m.start, m.finish) else (m.groups.lookup n).getD (0, 0)
    (s.space.take b).drop a
  let upper (c : Char) : Char := if Class.isLower c then Class.otherCase c else c
  let (built, _, _) := insertions.foldl (fun (built, change, once) insertion =>
    match insertion with
    | .change .upperNext => (built, change, some CaseChange.upper)
    | .change .lowerNext => (built, change, some CaseChange.lower)
    | .change kind => (built, kind, none)
    | part =>
      let text : Chars := match part with
        | .text text => text
        | .group n => group n
        | .change _ => []
      let cased (kind : CaseChange) : Char → Char := match kind with
        | .upper => upper
        | .lower => Ascii.lower
        | _ => id
      let changed := text.map (cased change)
      match once, text, changed with
      | some kind, c :: _, _ :: rest => (built ++ cased kind c :: rest, change, none)
      | once, _, changed => (built ++ changed, change, once)) ([], CaseChange.same, none)
  built

/-- How far a replacement has come: the place that is looked at next, where what was
found before ends, the number of what is found next, and what was made so far. -/
structure Progress where
  place : Nat
  behind : Option Nat
  count : Nat
  made : Chars
  changed : Bool

/-- Replaces what an expression finds: what was made of the space, and whether anything
was replaced. Nothing right behind what was found before is not found. -/
def replaceFrom (t : Substitution) : Nat → State → Progress → State × Chars × Bool
  | 0, s, p => (s, p.made ++ s.space.drop p.place, p.changed)
  | fuel + 1, s, p =>
    match find? s t.found p.place with
    | (s, none) => (s, p.made ++ s.space.drop p.place, p.changed)
    | (s, some m) =>
      let isEmpty := m.finish ≤ m.start
      let counts := !(isEmpty && p.behind = some m.start)
      let wanted := counts && t.first ≤ p.count && (t.everywhere || p.count = t.first)
      let between := (s.space.take m.start).drop p.place
      let found := (s.space.take m.finish).drop m.start
      let made := p.made ++ between ++ if wanted then build s m t.insertions else found
      let changed := p.changed || wanted
      let count := if counts then p.count + 1 else p.count
      if wanted && !t.everywhere then (s, made ++ s.space.drop m.finish, changed)
      else if !isEmpty then replaceFrom t fuel s ⟨m.finish, some m.finish, count, made, changed⟩
      else if s.space.length ≤ m.finish then (s, made, changed)
      else
        let made := made ++ (s.space.drop m.finish).take 1
        replaceFrom t fuel s ⟨m.finish + 1, some m.finish, count, made, changed⟩

/-! Showing -/

def shownChar (c : Char) : Chars :=
  match [('\x07', 'a'), ('\x08', 'b'), ('\x0c', 'f'), ('\n', 'n'), ('\x0d', 'r'), ('\t', 't'),
      ('\x0b', 'v'), ('\\', '\\')].lookup c with
  | some letter => ['\\', letter]
  | none =>
    if ' ' ≤ c && c ≤ '~' then [c]
    else
      let digits := Nat.toDigits 8 c.toNat
      '\\' :: List.replicate (3 - digits.length) '0' ++ digits

def shownWidth : Nat := 69

def shown (space : Chars) : Chars :=
  let (made, _) := space.foldl (fun (made, width) c =>
    let marks := shownChar c
    if shownWidth < width + marks.length then (made ++ '\\' :: '\n' :: marks, marks.length)
    else (made ++ marks, width + marks.length)) ([], 0)
  made ++ ['$', '\n']

/-! Running -/

def closingOf (steps : Array Step) : Nat → Nat → Nat → Nat
  | 0, _, index => index
  | fuel + 1, depth, index =>
    match (steps[index]?).map Step.action with
    | some .opening => closingOf steps fuel (depth + 1) (index + 1)
    | some .closing => if depth ≤ 1 then index else closingOf steps fuel (depth - 1) (index + 1)
    | some _ => closingOf steps fuel depth (index + 1)
    | none => index

def labelIndex (steps : Array Step) (name : Chars) : Option Nat :=
  if name.isEmpty then some steps.size
  else (List.range steps.size).findSome? fun index =>
    match (steps[index]?).map Step.action with
    | some (.label other) => if other = name then some (index + 1) else none
    | _ => none

def write (s : State) (mark : Char) (file : Chars) (text : Chars) : State :=
  if file = "/dev/stdout".toList then s.put mark text
  else { s with files := (file, text) :: s.files }

def firstLine (s : State) : Chars := s.space.takeWhile (· ≠ '\n')

def execute (t : Setting) : Nat → Nat → State → State × Outcome
  | 0, _, s => (s, .endless)
  | fuel + 1, index, s =>
    match t.steps[index]? with
    | none => (s, .finished)
    | some step =>
      let (s, selected) := isSelected s index step.selection
      let go (s : State) : State × Outcome := execute t fuel (index + 1) s
      if !selected then
        match step.action with
        | .opening => execute t fuel (closingOf t.steps t.steps.size 0 index + 1) s
        | _ => go s
      else
        match step.action with
        | .opening | .closing | .label _ => go s
        | .branch condition name =>
          let goes := match condition with
            | .always => true
            | .replaced => s.replaced
            | .notReplaced => !s.replaced
          let s := if condition = .always then s else { s with replaced := false }
          if goes then execute t fuel ((labelIndex t.steps name).getD t.steps.size) s else go s
        | .append text => go { s with queue := s.queue ++ [text] }
        | .insert text => go (s.put t.mark text)
        | .change text =>
          let amid := (s.active.lookup index).isSome && !step.selection.negated
          (if amid then s else s.put t.mark text, .deleted)
        | .delete false => (s, .deleted)
        | .delete true =>
          if s.space.contains '\n' then
            ({ s with space := s.space.drop ((firstLine s).length + 1) }, .again)
          else (s, .deleted)
        | .print false => go (s.putLine t.mark s.space)
        | .print true => go (s.put t.mark (firstLine s ++ [t.mark]))
        | .show => go (s.put t.mark (shown s.space))
        | .hold adds =>
          go { s with hold := if adds then s.hold ++ '\n' :: s.space else s.space }
        | .fetch adds =>
          go { s with space := if adds then s.space ++ '\n' :: s.hold else s.hold }
        | .exchange => go { s with space := s.hold, hold := s.space }
        | .next adds =>
          if s.lines.isEmpty then
            if s.more then (s, .endless) else (s, .quit true 0)
          else
            let s := if adds || t.silent then s else s.putLine t.mark s.space
            let s := s.flush t.mark
            match s.take adds '\n' with
            | some s => go s
            | none => (s, .quit true 0)
        | .quit prints code => (s, .quit prints code)
        | .substitute u =>
          let (s, made, changed) := replaceFrom u (s.space.length + 2) s ⟨0, none, 1, [], false⟩
          if !changed then go s
          else
            let s := { s with space := made, replaced := true }
            let s := if u.prints then s.putLine t.mark made else s
            go (match u.file with
              | some file => write s t.mark file (made ++ [t.mark])
              | none => s)
        | .counterparts source target =>
          go { s with space := s.space.map fun c =>
            ((source.idxOf? c).bind fun place => target[place]?).getD c }
        | .number => go (s.put t.mark (decimal s.number ++ ['\n']))
        | .read file =>
          go (match t.read file with
            | some text => { s with queue := s.queue ++ [text] }
            | none => s)
        | .write file => go (write s t.mark file (s.space ++ [t.mark]))

/-- How many commands are run on a line at most. -/
def maxSteps : Nat := 200000

/-- Runs the script on line after line: the status, unless it never ends. -/
def edit (t : Setting) : Nat → Bool → State → State × Option Nat
  | 0, _, s => (s, none)
  | fuel + 1, keeps, s =>
    match if keeps then some s else s.take false t.mark with
    | none => (s, if s.more then none else some 0)
    | some s =>
      let (s, outcome) := execute t maxSteps 0 { s with replaced := keeps && s.replaced }
      let printed := if t.silent then s else s.putLine t.mark s.space
      match outcome with
      | .finished => edit t fuel false (printed.flush t.mark)
      | .deleted => edit t fuel false (s.flush t.mark)
      | .again => edit t fuel true (s.flush t.mark)
      | .quit true code => (printed.flush t.mark, some code)
      | .quit false code => (s, some code)
      | .endless => (s, none)

def linesWithEnds (mark : Char) (text : Chars) : List (Chars × Bool) :=
  let pieces := text.splitOn mark
  let ended := pieces.dropLast.map (·, true)
  match pieces.getLast? with
  | none | some [] => ended
  | some last => ended ++ [(last, false)]

/-- The commands that are amid their lines before the first. -/
def activeAtStart (steps : Array Step) : List (Nat × Option Nat) :=
  steps.toList.zipIdx.filterMap fun (step, index) =>
    match step.selection.first, step.selection.second with
    | some (.line 0), some (.expression _) => some (index, none)
    | _, _ => none

/-- The state before the first line. -/
def start (t : Setting) (lines : List (Chars × Bool)) (more : Bool) : State :=
  ⟨lines, more, 0, [], true, [], [], [], false, false, activeAtStart t.steps, none, []⟩

/-- Edits lines: what was written, to standard output and to files, and the status. -/
def run (t : Setting) (lines : List (Chars × Bool)) (more : Bool) :
    Chars × List (Chars × Chars) × Option Nat :=
  let size := (lines.map fun line => line.1.length + 1).foldl (· + ·) 0
  let (s, code) := edit t (2 * size + 2) false (start t lines more)
  (s.output.reverse.flatten, s.files.reverse, code)

end Editor

def writeEdited (files : List (Chars × Chars)) : Run Unit := do
  let before ← get
  let mut opened : List Chars := []
  for (name, text) in files do
    let known := opened.contains name
    if ← openSink 1 known (← pathOf name) then say text
    opened := name :: opened
    modify fun after => { after with channels := before.channels }

def sed (arguments : List Chars) : Run Unit :=
  let choices := [⟨'n', "quiet", false⟩, ⟨'n', "silent", false⟩, ⟨'e', "expression", true⟩,
    ⟨'f', "file", true⟩, ⟨'E', "regexp-extended", false⟩, ⟨'r', "", false⟩,
    ⟨'s', "separate", false⟩, ⟨'i', "in-place", false⟩, ⟨'u', "unbuffered", false⟩,
    ⟨'z', "null-data", false⟩]
  given "sed" 1 choices arguments fun g => do
    let scripts ← g.options.filterMapM fun (letter, value) => do
      if letter = 'e' then pure (some value)
      else if letter = 'f' then pure ((← text? "sed" value).map fun text =>
        if isUnended text then text else text.dropLast)
      else pure none
    let (scripts, names) :=
      if scripts.isEmpty then (g.operands.take 1, g.operands.drop 1) else (scripts, g.operands)
    let dialect := if g.has 'E' || g.has 'r' then Regex.Dialect.extended else .basic
    match scripts.isEmpty, Edit.parse? dialect ((scripts.intersperse ['\n']).flatten) with
    | true, _ | _, none => report "sed" "-e expression #1: unknown command" 1
    | false, some script =>
      let mark := if g.has 'z' then '\x00' else '\n'
      let tree := (← get).files
      let t : Editor.Setting := ⟨script.steps, g.has 'n' || script.silent, mark, fun file =>
        (tree.read (textOf file)).toOption.map Chars.ofBytes⟩
      let stop (code : Option Nat) : Run Unit :=
        match code with
        | some code => setStatus code
        | none => throw .writing
      let arrived := (← get).input?.filter fun source => !source.stream.closed
      let ofInput := names.isEmpty || names = [['-']]
      if let (true, some source) := (ofInput, arrived) then
        -- a script that quits does so before all has come
        let text := Chars.ofBytes source.stream.arrived
        let lines := (Editor.linesWithEnds mark text).filter (·.2)
        match Editor.run t lines true with
        | (written, _, some code) =>
          let _ ← takeArrived
          say written
          setStatus code
        | _ => throw .waiting
      else
        let found ← texts "sed" names
        let missing := found.length < names.length
        if g.has 'i' then
          for (name, text) in found do
            let (written, files, code) := Editor.run t (Editor.linesWithEnds mark text) false
            let before ← get
            if ← openSink 1 false (← pathOf name) then say written
            modify fun after => { after with channels := before.channels }
            writeEdited files
            stop code
        else if g.has 's' then
          for (_, text) in found do
            let (written, files, code) := Editor.run t (Editor.linesWithEnds mark text) false
            say written
            writeEdited files
            stop code
        else
          let lines := found.flatMap fun entry => Editor.linesWithEnds mark entry.2
          let (written, files, code) := Editor.run t lines false
          say written
          writeEdited files
          stop code
        if missing then setStatus 2

end Provenance.Shell.Tools
