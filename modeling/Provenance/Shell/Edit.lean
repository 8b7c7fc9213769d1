import Provenance.Shell.Regex

/-!
Scripts that edit a text line by line: which lines a command is for, what it does, and
how both are written.
-/

namespace Provenance.Shell.Edit

/-- An expression as a script uses it; without one of its own it is the last that was
used. -/
structure Expression where
  regex : Option Regex
  ignoresCase : Bool

inductive Address where
  | line (number : Nat)
  | last
  | expression (e : Expression)
  | every (first step : Nat)
  | behind (count : Nat)
  | multiple (count : Nat)

structure Selection where
  first : Option Address
  second : Option Address
  negated : Bool

inductive CaseChange where
  | upper | lower | same
  | upperNext | lowerNext
  deriving DecidableEq, Repr

inductive Insertion where
  | text (text : Chars)
  | group (number : Nat)
  | change (change : CaseChange)
  deriving DecidableEq, Repr

structure Substitution where
  found : Expression
  insertions : List Insertion
  first : Nat
  everywhere : Bool
  prints : Bool
  file : Option Chars

/-- Whether to go to a label: always, or depending on whether anything was put in
place. -/
inductive Condition where
  | always | replaced | notReplaced
  deriving DecidableEq, Repr

inductive Action where
  | opening
  | closing
  | label (name : Chars)
  | branch (condition : Condition) (label : Chars)
  | append (text : Chars)
  | insert (text : Chars)
  | change (text : Chars)
  | delete (firstLine : Bool)
  | print (firstLine : Bool)
  | show
  | hold (adds : Bool)
  | fetch (adds : Bool)
  | exchange
  | next (adds : Bool)
  | quit (prints : Bool) (code : Nat)
  | substitute (s : Substitution)
  | counterparts (source target : Chars)
  | number
  | read (file : Chars)
  | write (file : Chars)

structure Step where
  selection : Selection
  action : Action

/-! Reading -/

/-- The text up to a divider, and what follows it. A backslash keeps a divider from
being one; where an expression is read it also makes a line end. -/
def untilDivider (divider : Char) (inRegex : Bool) : Chars → Option (Chars × Chars)
  | [] => none
  | '\\' :: c :: rest =>
    let here : Chars :=
      if c = 'n' && inRegex then ['\n']
      else if c = divider && (inRegex || c ≠ '&') then [c]
      else ['\\', c]
    (untilDivider divider inRegex rest).map fun (text, rest) => (here ++ text, rest)
  | c :: rest =>
    if c = divider then some ([], rest)
    else (untilDivider divider inRegex rest).map fun (text, rest) => (c :: text, rest)

def controls : List (Char × Char) :=
  [('t', '\t'), ('f', '\x0c'), ('v', '\x0b'), ('r', '\x0d'), ('a', '\x07')]

def withControls : Chars → Chars
  | '\\' :: c :: rest =>
    match controls.lookup c with
    | some d => d :: withControls rest
    | none => '\\' :: c :: withControls rest
  | c :: rest => c :: withControls rest
  | [] => []

def expression? (dialect : Regex.Dialect) (text : Chars) (ignoresCase : Bool) :
    Option Expression :=
  if text.isEmpty then some ⟨none, ignoresCase⟩
  else (Regex.parse? dialect (withControls text)).map fun r => ⟨some r, ignoresCase⟩

def isBlank (c : Char) : Bool := c = ' ' || c = '\t'

def skipBlanks (text : Chars) : Chars := text.dropWhile isBlank

def number? (text : Chars) : Option (Nat × Chars) :=
  let digits := text.takeWhile Ascii.isDigit
  if digits.isEmpty then none else some (Ascii.numberOf 10 digits, text.drop digits.length)

/-- The address at the front, if there is one, and what follows it; none if it is
wrong. -/
def address? (dialect : Regex.Dialect) (text : Chars) : Option (Option Address × Chars) :=
  let byExpression (divider : Char) (rest : Chars) : Option (Option Address × Chars) := do
    let (found, rest) ← untilDivider divider true rest
    let (ignoresCase, rest) := match rest with
      | 'I' :: rest => (true, rest)
      | rest => (false, rest)
    some (some (.expression (← expression? dialect found ignoresCase)), rest)
  match text with
  | '$' :: rest => some (some .last, rest)
  | '/' :: rest => byExpression '/' rest
  | '\\' :: divider :: rest => byExpression divider rest
  | '+' :: rest => (number? rest).map fun (n, rest) => (some (.behind n), rest)
  | '~' :: rest => (number? rest).map fun (n, rest) => (some (.multiple n), rest)
  | text =>
    match number? text with
    | none => some (none, text)
    | some (first, '~' :: rest) =>
      match number? rest with
      | some (step, rest) => some (some (.every first step), rest)
      | none => some (some (.every first 0), rest)
    | some (n, rest) => some (some (.line n), rest)

def selection? (dialect : Regex.Dialect) (text : Chars) : Option (Selection × Chars) := do
  let (first, rest) ← address? dialect text
  let (second, rest) ← match first, skipBlanks rest with
    | some _, ',' :: rest => do
      let (second, rest) ← address? dialect (skipBlanks rest)
      if second.isNone then none else some (second, rest)
    | _, rest => some (none, rest)
  let rest := skipBlanks rest
  let behind := rest.dropWhile fun c => c = '!' || isBlank c
  some (⟨first, second, rest.head? = some '!'⟩, behind)

/-- The text of a command that adds one, up to a line end without a backslash, and what
follows it. -/
def addedText : Chars → Chars × Chars
  | [] => ([], [])
  | '\n' :: rest => ([], rest)
  | '\\' :: c :: rest =>
    let (text, rest) := addedText rest
    (c :: text, rest)
  | c :: rest =>
    let (text, rest) := addedText rest
    (c :: text, rest)

/-- The text behind a command that adds one: on the same line, or on the next one. -/
def added? (text : Chars) : Option (Chars × Chars) :=
  let text := skipBlanks text
  let body := match text with
    | '\\' :: rest =>
      match skipBlanks rest with
      | '\n' :: rest => rest
      | _ => rest
    | rest => rest
  if text.isEmpty then none
  else
    let (added, rest) := addedText body
    some (added ++ ['\n'], rest)

def insertions : Chars → List Insertion
  | [] => []
  | '&' :: rest => .group 0 :: insertions rest
  | '\\' :: c :: rest =>
    let changes : List (Char × CaseChange) :=
      [('U', .upper), ('L', .lower), ('E', .same), ('u', .upperNext), ('l', .lowerNext)]
    let here : Insertion :=
      if Ascii.isDigit c then .group (c.toNat - '0'.toNat)
      else
        match changes.lookup c, controls.lookup c with
        | some change, _ => .change change
        | none, some control => .text [control]
        | none, none => .text [if c = 'n' then '\n' else c]
    here :: insertions rest
  | c :: rest => .text [c] :: insertions rest

def restOfLine (text : Chars) : Chars × Chars :=
  let line := text.takeWhile (· ≠ '\n')
  (line, text.drop line.length)

def endsCommand : Chars → Bool
  | [] => true
  | c :: _ => c = '\n' || c = ';' || c = '\x7d' || c = '#'

/-- Options behind a substitution: changes what they say of it, and whether letters of
either case are the same. -/
def substitutionOptions : Nat → Substitution → Bool → Chars →
    Option (Substitution × Bool × Chars)
  | 0, _, _, _ => none
  | fuel + 1, s, ignoresCase, text =>
    match text with
    | 'g' :: rest => substitutionOptions fuel { s with everywhere := true } ignoresCase rest
    | 'p' :: rest => substitutionOptions fuel { s with prints := true } ignoresCase rest
    | 'i' :: rest | 'I' :: rest => substitutionOptions fuel s true rest
    | 'm' :: rest | 'M' :: rest => substitutionOptions fuel s ignoresCase rest
    | 'w' :: rest =>
      let (file, rest) := restOfLine (skipBlanks rest)
      some ({ s with file := some file }, ignoresCase, rest)
    | text =>
      match number? text with
      | some (n, rest) =>
        if n = 0 then none else substitutionOptions fuel { s with first := n } ignoresCase rest
      | none => some (s, ignoresCase, text)

def substitution? (dialect : Regex.Dialect) : Chars → Option (Action × Chars)
  | [] => none
  | divider :: rest => do
    let (found, rest) ← untilDivider divider true rest
    let (replacement, rest) ← untilDivider divider false rest
    let s : Substitution := ⟨⟨none, false⟩, insertions replacement, 1, false, false, none⟩
    let (s, ignoresCase, rest) ← substitutionOptions (rest.length + 1) s false rest
    some (.substitute { s with found := ← expression? dialect found ignoresCase }, rest)

/-- Characters with what backslashes mean between the dividers of two lists of counterparts. -/
def plainChars : Chars → Chars
  | '\\' :: 'n' :: rest => '\n' :: plainChars rest
  | '\\' :: c :: rest =>
    match controls.lookup c with
    | some d => d :: plainChars rest
    | none => if c = '\\' then c :: plainChars rest else '\\' :: c :: plainChars rest
  | c :: rest => c :: plainChars rest
  | [] => []

def counterparts? : Chars → Option (Action × Chars)
  | [] => none
  | divider :: rest => do
    let (source, rest) ← untilDivider divider true rest
    let (target, rest) ← untilDivider divider true rest
    let (source, target) := (plainChars source, plainChars target)
    if source.length = target.length then some (.counterparts source target, rest) else none

def action? (dialect : Regex.Dialect) : Chars → Option (Action × Chars)
  | [] => none
  | c :: rest =>
    let name (use : Chars → Action) : Option (Action × Chars) :=
      let text := skipBlanks rest
      let label := text.takeWhile fun c => c ≠ '\n' && c ≠ ';' && !isBlank c
      some (use label, text.drop label.length)
    let file (use : Chars → Action) : Option (Action × Chars) :=
      let (path, rest) := restOfLine (skipBlanks rest)
      some (use path, rest)
    let text (use : Chars → Action) : Option (Action × Chars) :=
      (added? rest).map fun (text, rest) => (use text, '\n' :: rest)
    let code (prints : Bool) : Option (Action × Chars) :=
      match number? (skipBlanks rest) with
      | some (n, rest) => some (.quit prints n, rest)
      | none => some (.quit prints 0, rest)
    match c with
    | '\x7b' => some (.opening, ';' :: rest)
    | '\x7d' => some (.closing, rest)
    | ':' => name .label
    | 'b' => name (.branch .always)
    | 't' => name (.branch .replaced)
    | 'T' => name (.branch .notReplaced)
    | 'a' => text .append
    | 'i' => text .insert
    | 'c' => text .change
    | 'd' => some (.delete false, rest)
    | 'D' => some (.delete true, rest)
    | 'p' => some (.print false, rest)
    | 'P' => some (.print true, rest)
    | 'l' => some (.show, rest)
    | 'h' => some (.hold false, rest)
    | 'H' => some (.hold true, rest)
    | 'g' => some (.fetch false, rest)
    | 'G' => some (.fetch true, rest)
    | 'x' => some (.exchange, rest)
    | 'n' => some (.next false, rest)
    | 'N' => some (.next true, rest)
    | 'q' => code true
    | 'Q' => code false
    | 's' => substitution? dialect rest
    | 'y' => counterparts? rest
    | '=' => some (.number, rest)
    | 'r' => file .read
    | 'w' => file .write
    | _ => none

/-- Reads the commands of a script, so many groups being open. -/
def steps? (dialect : Regex.Dialect) : Nat → Nat → Chars → Option (List Step)
  | 0, _, _ => none
  | fuel + 1, depth, text =>
    match text.dropWhile fun c => isBlank c || c = '\n' || c = ';' with
    | [] => if depth = 0 then some [] else none
    | '#' :: rest => steps? dialect fuel depth (restOfLine rest).2
    | text => do
      let (selection, rest) ← selection? dialect text
      let (action, rest) ← action? dialect rest
      let rest := skipBlanks rest
      if !endsCommand rest then none
      else
        let depth ← match action, depth with
          | .opening, depth => some (depth + 1)
          | .closing, depth + 1 => some depth
          | .closing, 0 => none
          | _, depth => some depth
        (steps? dialect fuel depth rest).map (⟨selection, action⟩ :: ·)

/-- A script, and whether its first line keeps lines from being printed. -/
structure Script where
  steps : Array Step
  silent : Bool

def parse? (dialect : Regex.Dialect) (text : Chars) : Option Script := do
  let steps ← steps? dialect (2 * text.length + 2) 0 text
  some ⟨steps.toArray, (restOfLine text).1 = ['#', 'n']⟩

end Provenance.Shell.Edit
