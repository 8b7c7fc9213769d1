import Provenance.Shell.Regex
import Provenance.Shell.Tools.Input

/-!
Counting what is in texts, and reckoning with numbers.
-/

namespace Provenance.Shell.Tools

/-! Lines, words and bytes -/

def wordCount (text : Chars) : Nat :=
  (text.foldl (fun (count, inWord) c =>
    if Class.isSpace c then (count, false) else (if inWord then count else count + 1, true))
    (0, false)).1

def counts (letters : Chars) (text : Chars) : List Nat :=
  let asked (c : Char) : Bool := letters.contains c
  let count (c : Char) (n : Nat) : List Nat := if asked c then [n] else []
  count 'l' (text.filter (· = '\n')).length ++ count 'w' (wordCount text) ++
    count 'm' text.length ++ count 'c' text.length ++
    count 'L' (((linesOf text).map List.length).foldl max 0)

def wc (arguments : List Chars) : Run Unit :=
  let choices := [⟨'l', "lines", false⟩, ⟨'w', "words", false⟩, ⟨'c', "bytes", false⟩,
    ⟨'m', "chars", false⟩, ⟨'L', "max-line-length", false⟩]
  given "wc" 1 choices arguments fun g => do
    let letters := if g.options.isEmpty then ['l', 'w', 'c'] else g.options.map Prod.fst
    let isFile := (← get).input?.any (·.keeps) && (← get).channels.lookup 0 ≠ some (.source 0)
    let found ← texts "wc" g.operands
    let rows := found.map fun (name, text) => (name, counts letters text)
    let total := rows.foldl (fun sum row => List.zipWith (· + ·) sum row.2) (counts letters [])
    let rows := if 1 < g.operands.length then rows.concat ("total".toList, total) else rows
    let sizes := (found.map fun entry => entry.2.length).foldl (· + ·) 0
    let ofInput := g.operands.isEmpty || g.operands.contains ['-']
    let width :=
      if rows.length ≤ 1 && (counts letters []).length = 1 then 1
      else max (decimal sizes).length (if ofInput && !isFile then 7 else 1)
    say (unlines (rows.map fun (name, numbers) =>
      let written := (numbers.map fun n => padLeft width (decimal n)).intersperse [' ']
      written.flatten ++ if g.operands.isEmpty then [] else ' ' :: name))
    if found.length < g.operands.length then setStatus 1

/-! Numbers in order -/

/-- A decimal number as so many units of its last place. -/
structure Fixed where
  units : Int
  places : Nat

namespace Fixed

def ofText? (text : Chars) : Option Fixed :=
  let (negative, number) := match text with
    | '-' :: rest => (true, rest)
    | '+' :: rest => (false, rest)
    | rest => (false, rest)
  let whole := number.takeWhile Ascii.isDigit
  let part := (number.drop (whole.length + 1)).takeWhile Ascii.isDigit
  let rest := number.drop whole.length
  if (whole ++ part).isEmpty || !(rest.isEmpty || rest = '.' :: part) then none
  else
    let n : Int := Ascii.numberOf 10 (whole ++ part)
    some ⟨if negative then -n else n, part.length⟩

def widen (x : Fixed) (places : Nat) : Fixed := ⟨x.units * 10 ^ (places - x.places), places⟩

/-- A number with the first of its places. -/
def text (x : Fixed) (places : Nat) : Chars :=
  let units := x.units.tdiv (10 ^ (x.places - places))
  let digits := decimal units.natAbs
  let digits := List.replicate (places + 1 - digits.length) '0' ++ digits
  let whole := digits.take (digits.length - places)
  (if units < 0 then ['-'] else []) ++ whole ++
    if places = 0 then [] else '.' :: digits.drop whole.length

end Fixed

def padZeros (width : Nat) (text : Chars) : Chars :=
  match text with
  | '-' :: digits => '-' :: (List.replicate (width - text.length) '0' ++ digits)
  | digits => List.replicate (width - text.length) '0' ++ digits

def sequenceChoices : List Choice :=
  [⟨'s', "separator", true⟩, ⟨'f', "format", true⟩, ⟨'w', "equal-width", false⟩]

/-- Splits off the options in front of numbers; what begins with a sign and a digit is
a number. -/
def sequenceOptions : Nat → List Chars → Option (List (Char × Chars) × List Chars)
  | 0, _ => none
  | fuel + 1, arguments =>
    match arguments with
    | ['-', '-'] :: rest => some ([], rest)
    | ('-' :: c :: more) :: rest =>
      if Ascii.isDigit c || c = '.' then some ([], arguments)
      else do
        let (options, rest) ← if c = '-' then
            (longOption? sequenceChoices more rest).map fun (option, rest) => ([option], rest)
          else cluster sequenceChoices (c :: more) rest
        (sequenceOptions fuel rest).map fun (later, rest) => (options ++ later, rest)
    | arguments => some ([], arguments)

def stepsTo (first step last : Int) : List Int :=
  if step = 0 then []
  else
    let count := (last - first).fdiv step + 1
    (List.range count.toNat).map fun (n : Nat) => first + n * step

def seq (arguments : List Chars) : Run Unit := do
  match sequenceOptions (arguments.length + 1) arguments with
  | none => report "seq" "invalid option" 1
  | some (options, numbers) =>
    let bounds := match numbers.mapM Fixed.ofText? with
      | some [last] => some (⟨1, 0⟩, ⟨1, 0⟩, last)
      | some [first, last] => some (first, ⟨1, 0⟩, last)
      | some [first, step, last] => some (first, step, last)
      | _ => none
    match bounds with
    | none => report "seq" "invalid argument" 1
    | some ((first, step, last) : Fixed × Fixed × Fixed) =>
      let places := max first.places (max step.places last.places)
      let shown := max first.places step.places
      let (first, step, last) := (first.widen places, step.widen places, last.widen places)
      if step.units = 0 then report "seq" "invalid Zero increment value: '0'" 1
      else
        let values := stepsTo first.units step.units last.units
        let texts := values.map fun n => Fixed.text ⟨n, places⟩ shown
        let width := max (first.text shown).length (last.text shown).length
        let texts := match options.lookup 'f' with
          | some form => texts.map fun text => (format 1 form [text]).1
          | none => if options.any (·.1 = 'w') then texts.map (padZeros width) else texts
        let joint := (options.lookup 's').getD ['\n']
        say (if texts.isEmpty then [] else (texts.intersperse joint).flatten ++ ['\n'])

/-! Expressions -/

inductive ExprFault where
  | malformed
  | notInteger
  | divisionByZero
  deriving DecidableEq, Repr

namespace Expr

def message : ExprFault → String
  | .malformed => "syntax error"
  | .notInteger => "non-integer argument"
  | .divisionByZero => "division by zero"

abbrev Read := Except ExprFault (Chars × List Chars)

def integer? (text : Chars) : Option Int :=
  let (negative, digits) := match text with
    | '-' :: rest => (true, rest)
    | rest => (false, rest)
  if digits.isEmpty || !digits.all Ascii.isDigit then none
  else some (if negative then -(Ascii.numberOf 10 digits : Int) else Ascii.numberOf 10 digits)

def ofInt (n : Int) : Chars := (toString n).toList

def isNull (text : Chars) : Bool := text.isEmpty || integer? text = some 0

/-- What the front of a text has in common with an expression: what its first group has
found, or how long it is. -/
def compareWith (text pattern : Chars) : Except ExprFault Chars :=
  match Regex.parse? .basic pattern with
  | none => .error .malformed
  | some r =>
    let t : Regex.Subject := ⟨text.toArray, false⟩
    let grouped := (Regex.marks .basic (pattern.length + 1) true pattern).any fun marks =>
      marks.any fun
        | .opening => true
        | _ => false
    match r.find? t 0 (fun start _ => start = 0) with
    | none => .ok (if grouped then [] else ['0'])
    | some m =>
      if grouped then
        .ok ((m.groups.lookup 1).elim [] fun (a, b) => t.slice a b)
      else .ok (ofInt m.finish)

def arithmetic (operator : Char) (a b : Chars) : Except ExprFault Chars :=
  match integer? a, integer? b with
  | some x, some y =>
    match operator with
    | '+' => .ok (ofInt (x + y))
    | '-' => .ok (ofInt (x - y))
    | '*' => .ok (ofInt (x * y))
    | '/' => if y = 0 then .error .divisionByZero else .ok (ofInt (x.tdiv y))
    | _ => if y = 0 then .error .divisionByZero else .ok (ofInt (x.tmod y))
  | _, _ => .error .notInteger

/-- Compares by value where both are numbers. -/
def comparison (operator : String) (a b : Chars) : Chars :=
  let order := match integer? a, integer? b with
    | some x, some y => compare x y
    | _, _ => compare (String.ofList a) (String.ofList b)
  let holds : Bool := match operator with
    | "<" => order == .lt
    | "<=" => order.isLE
    | "=" | "==" => order == .eq
    | "!=" => order != .eq
    | ">=" => order.isGE
    | _ => order == .gt
  if holds then ['1'] else ['0']

def apply (operator : String) (a b : Chars) : Except ExprFault Chars :=
  match operator with
  | "|" => .ok (if !isNull a then a else if !isNull b then b else ['0'])
  | "&" => .ok (if isNull a || isNull b then ['0'] else a)
  | ":" => compareWith a b
  | "+" => arithmetic '+' a b
  | "-" => arithmetic '-' a b
  | "*" => arithmetic '*' a b
  | "/" => arithmetic '/' a b
  | "%" => arithmetic '%' a b
  | operator => .ok (comparison operator a b)

def levels : List (List String) :=
  [["|"], ["&"], ["<", "<=", "=", "==", "!=", ">=", ">"], ["+", "-"], ["*", "/", "%"], [":"]]

mutual

def level : Nat → List (List String) → List Chars → Read
  | 0, _, _ => .error .malformed
  | fuel + 1, [], words => operand fuel words
  | fuel + 1, operators :: stronger, words => do
    let (first, rest) ← level fuel stronger words
    levelRest fuel operators stronger first rest

def levelRest : Nat → List String → List (List String) → Chars → List Chars → Read
  | 0, _, _, _, _ => .error .malformed
  | fuel + 1, operators, stronger, first, words =>
    match words with
    | word :: rest =>
      if operators.contains (String.ofList word) then do
        let (second, rest) ← level fuel stronger rest
        levelRest fuel operators stronger (← apply (String.ofList word) first second) rest
      else .ok (first, words)
    | [] => .ok (first, [])

def operand : Nat → List Chars → Read
  | 0, _ => .error .malformed
  | fuel + 1, words =>
    match words with
    | [] => .error .malformed
    | word :: rest =>
      match String.ofList word, rest with
      | "(", rest => do
        let (value, rest) ← level fuel levels rest
        match rest with
        | [')'] :: rest => .ok (value, rest)
        | _ => .error .malformed
      | "+", value :: rest => .ok (value, rest)
      | "+", [] => .error .malformed
      | "length", rest => do
        let (value, rest) ← operand fuel rest
        .ok (ofInt value.length, rest)
      | "match", rest => do
        let (text, rest) ← operand fuel rest
        let (pattern, rest) ← operand fuel rest
        .ok (← compareWith text pattern, rest)
      | "index", rest => do
        let (text, rest) ← operand fuel rest
        let (chars, rest) ← operand fuel rest
        .ok (ofInt ((text.findIdx? chars.contains).elim 0 (· + 1)), rest)
      | "substr", rest => do
        let (text, rest) ← operand fuel rest
        let (place, rest) ← operand fuel rest
        let (length, rest) ← operand fuel rest
        match integer? place, integer? length with
        | some place, some length =>
          .ok (if place < 1 then [] else (text.drop (place.toNat - 1)).take length.toNat, rest)
        | _, _ => .ok ([], rest)
      | _, rest => .ok (word, rest)

end

end Expr

def expr (arguments : List Chars) : Run Unit := do
  let words := if arguments.head? = some ['-', '-'] then arguments.drop 1 else arguments
  let value : Except ExprFault Chars := do
    match ← Expr.level (16 * (words.length + 2)) Expr.levels words with
    | (value, []) => .ok value
    | _ => .error .malformed
  match value with
  | .ok value =>
    say (value ++ ['\n'])
    if Expr.isNull value then setStatus 1
  | .error cause => report "expr" (Expr.message cause) 2

end Provenance.Shell.Tools
