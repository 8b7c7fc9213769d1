import Provenance.Shell.Records.Parser

/-!
The values of programs that go through records: texts and numbers, each of which stands
for one of the other kind; and what is done to texts.
-/

namespace Provenance.Shell

/-- The exact value of a number that the machine counts with. -/
def Real.ofFloat (x : Float) : Real :=
  let bits := x.toBits.toNat
  let negative := 2 ^ 63 ≤ bits
  let exponent : Nat := bits / 2 ^ 52 % 2 ^ 11
  let fraction := bits % 2 ^ 52
  if exponent = 2 ^ 11 - 1 then
    if fraction = 0 then .infinite negative else .notNumber negative
  else if exponent = 0 then .finite ⟨negative, fraction, Binary64.minExponent⟩
  else .finite ⟨negative, fraction + 2 ^ 52, (exponent : Int) - 1 + Binary64.minExponent⟩

namespace Records

inductive Value where
  | unset
  | number (x : Float)
  | text (text : Chars)
  /-- A text that was read; it counts as a number if it looks like one. -/
  | input (text : Chars)

def wholeOf (x : Float) : Int :=
  match Real.ofFloat x with
  | .finite x =>
    let (num, den) := x.fraction
    if x.negative then -(num / den : Nat) else (num / den : Nat)
  | .infinite negative => if negative then -(2 ^ 63) else 2 ^ 63 - 1
  | .notNumber _ => -(2 ^ 63)

namespace Value

def numberOf? (text : Chars) : Option Float :=
  match numberAt? text with
  | some (x, rest) => if rest.all Class.isSpace then some x else none
  | none => none

def toNumber : Value → Float
  | .unset => 0.0
  | .number x => x
  | .text t | .input t => ((numberAt? t).map Prod.fst).getD 0.0

def number? : Value → Option Float
  | .unset => some 0.0
  | .number x => some x
  | .text _ => none
  | .input t => numberOf? t

def isTrue : Value → Bool
  | .unset => false
  | .number x => x != 0.0
  | .text t => !t.isEmpty
  | .input t => (numberOf? t).elim (!t.isEmpty) (· != 0.0)

def ofBool (b : Bool) : Value := .number (if b then 1.0 else 0.0)

def ofNat (n : Nat) : Value := .number (Float.ofNat n)

end Value

/-! Texts of numbers -/

def numberText (format : Chars → Float → Chars) (conversion : Chars) (x : Float) : Chars :=
  let whole := wholeOf x
  if Float.ofInt whole == x && whole.natAbs < 2 ^ 64 then (toString whole).toList
  else format conversion x

def argument (text : Value → Chars) (kind : Char) (value : Value) : Chars :=
  if ['d', 'i', 'o', 'x', 'X', 'u'].contains kind then (toString (wholeOf value.toNumber)).toList
  else if kind = 'c' then
    match value with
    | .number x => [Char.ofNat ((wholeOf x) % 256).toNat]
    | value => text value
  else if kind = 's' then text value
  else
    let x := Real.ofFloat value.toNumber
    (if x.isNegative then ['-'] else []) ++ x.text 'e' (some 17) false

def formatted (text : Value → Chars) : Nat → Chars → List Value → Option Chars
  | 0, _, _ => none
  | _, [], _ => some []
  | fuel + 1, '%' :: '%' :: rest, values =>
    (formatted text fuel rest values).map ('%' :: ·)
  | fuel + 1, '%' :: whole, values => do
    let size (rest : Chars) (values : List Value) : Nat × Chars × List Value :=
      match rest with
      | '*' :: rest => ((wholeOf (values.headD .unset).toNumber).toNat, rest, values.drop 1)
      | rest =>
        let digits := rest.takeWhile Ascii.isDigit
        (Ascii.numberOf 10 digits, rest.drop digits.length, values)
    let flags := whole.takeWhile "#-+ 0".toList.contains
    let (width, rest, values) := size (whole.drop flags.length) values
    let (precision, rest, values) := match rest with
      | '.' :: rest =>
        let (precision, rest, values) := size rest values
        (some precision, rest, values)
      | rest => (none, rest, values)
    let d : Directive := ⟨flags.contains '-', flags.contains '0', flags.contains '+',
      flags.contains ' ', flags.contains '#', width, precision⟩
    match rest.dropWhile fun c => c = 'l' || c = 'h' with
    | [] => none
    | kind :: rest =>
      let (shown, _, _) ← d.write kind (argument text kind (← values.head?))
      (formatted text fuel rest (values.drop 1)).map (shown ++ ·)
  | fuel + 1, c :: rest, values => (formatted text fuel rest values).map (c :: ·)

def conversionText (conversion : Chars) (x : Float) : Chars :=
  (formatted (fun _ => []) (conversion.length + 1) conversion [.number x]).getD []

def Value.toText (conversion : Chars) : Value → Chars
  | .unset => []
  | .number x => numberText conversionText conversion x
  | .text t | .input t => t

/-! Expressions in texts -/

def findIn? (r : Regex) (text : Regex.Subject) (source : Nat) : Option Regex.Match :=
  r.find? text source fun _ _ => true

/-- The pieces of a text between what an expression finds, unless that is empty. -/
def piecesBy (r : Regex) (text : Regex.Subject) : Nat → Nat → Nat → List Chars
  | 0, start, _ => [text.slice start text.chars.size]
  | fuel + 1, start, source =>
    match findIn? r text source with
    | none => [text.slice start text.chars.size]
    | some m =>
      if m.finish ≤ m.start then
        if text.chars.size ≤ m.start then [text.slice start text.chars.size]
        else piecesBy r text fuel start (m.start + 1)
      else text.slice start m.start :: piecesBy r text fuel m.finish m.finish

/-- What stands between fields: an expression, or one character, or blanks. -/
inductive Separator where
  | blanks
  | nothing
  | one (c : Char)
  | regex (r : Regex)

def Separator.ofText (text : Chars) : Separator :=
  match text with
  | [' '] => .blanks
  | [] => .nothing
  | ['\\'] => .one '\\'
  | [c] => .one c
  | text => ((regexOf? text).map .regex).getD .nothing

/-- The texts between separators; where blanks separate, none of them is empty. -/
def Separator.split (s : Separator) (text : Chars) : List Chars :=
  match s with
  | .blanks => (text.splitOnP fun c => c = ' ' || c = '\t' || c = '\n').filter (!·.isEmpty)
  | _ =>
    if text.isEmpty then []
    else
      match s with
      | .one c => text.splitOn c
      | .regex r => piecesBy r ⟨text.toArray, false⟩ (text.length + 1) 0 0
      | _ => text.map ([·])

def replacement (found : Chars) : Chars → Chars
  | '\\' :: '&' :: rest => '&' :: replacement found rest
  | '\\' :: '\\' :: rest => '\\' :: replacement found rest
  | '&' :: rest => found ++ replacement found rest
  | c :: rest => c :: replacement found rest
  | [] => []

/-- Replaces what an expression finds from a place onward, everywhere or once: the text
behind that place, and how often. Nothing right behind what was found is not found. -/
def replaced (r : Regex) (new : Chars) (everywhere : Bool) (text : Regex.Subject) :
    Nat → Nat → Bool → Chars × Nat
  | 0, place, _ => (text.slice place text.chars.size, 0)
  | fuel + 1, place, behind =>
    match findIn? r text place with
    | none => (text.slice place text.chars.size, 0)
    | some m =>
      let isEmpty := m.finish ≤ m.start
      let counts := !(isEmpty && behind && m.start = place)
      let put := if counts then replacement (text.slice m.start m.finish) new else []
      let before := text.slice place m.start ++ put
      let count := if counts then 1 else 0
      if counts && !everywhere then (before ++ text.slice m.finish text.chars.size, count)
      else if isEmpty then
        if text.chars.size ≤ m.finish then (before, count)
        else
          let (rest, more) := replaced r new everywhere text fuel (m.finish + 1) false
          (before ++ text.slice m.finish (m.finish + 1) ++ rest, count + more)
      else
        let (rest, more) := replaced r new everywhere text fuel m.finish true
        (before ++ rest, count + more)

/-- The first place of a text in another one, counted from one; zero if it is not there. -/
def placeOf (wanted : Chars) : Nat → Chars → Nat
  | n, [] => if wanted.isEmpty then n else 0
  | n, c :: rest =>
    if wanted.isPrefixOf (c :: rest) then n else placeOf wanted (n + 1) rest

/-- The characters from a place, counted from one, at most so many. -/
def slice (text : Chars) (start : Float) (count : Option Float) : Chars :=
  let first := wholeOf (start + 0.5).floor
  let last := match count with
    | some count => wholeOf (start + count + 0.5).floor
    | none => text.length + 1
  let first := max 1 first
  (text.take (last - 1).toNat).drop (first - 1).toNat

def Comparison.holds (c : Comparison) (less equal : Bool) : Bool :=
  match c with
  | .less => less
  | .lessEqual => less || equal
  | .equal => equal
  | .different => !equal
  | .greater => !less && !equal
  | .greaterEqual => !less

/-- Compares values: as numbers if both are, else as texts. -/
def Comparison.compare (c : Comparison) (text : Value → Chars) (a b : Value) : Bool :=
  match a.number?, b.number? with
  | some x, some y => c.holds (x < y) (x == y)
  | _, _ =>
    let (s, t) := (text a, text b)
    c.holds (s < t) (s = t)

/-- What is left of a number after as many of another as are in it. -/
def remainder (x y : Float) : Float :=
  match Real.ofFloat x, Real.ofFloat y with
  | .finite a, .finite b =>
    let (m, n) := a.fraction
    let (p, q) := b.fraction
    if p = 0 then 0.0 / 0.0 else (Real.ofFraction a.negative (m * q % (p * n)) (n * q)).toFloat
  | .finite _, .infinite _ => x
  | _, _ => 0.0 / 0.0

def Operator.apply (o : Operator) (x y : Float) : Float :=
  match o with
  | .plus => x + y
  | .minus => x - y
  | .times => x * y
  | .over => x / y
  | .modulo => remainder x y
  | .power => x ^ y

end Records

end Provenance.Shell
