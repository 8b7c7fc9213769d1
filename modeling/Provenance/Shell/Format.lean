import Provenance.Shell.Real
import Provenance.Text.Basic

/-!
Escapes in texts, and texts by a format. A format is used again until all
arguments are used.
-/

namespace Provenance.Shell

def letterEscapes : List (Char × Char) :=
  [('a', '\x07'), ('b', '\x08'), ('f', '\x0c'), ('n', '\n'), ('r', '\x0d'), ('t', '\t'),
    ('v', '\x0b'), ('\\', '\\')]

def isOctal (c : Char) : Bool := '0' ≤ c && c ≤ '7'

/-- What a backslash and what follows it stand for, and the rest. Before anything
else than an escape the backslash stands for itself. -/
def escape (text : Chars) : Char × Chars :=
  let digits := (text.take 3).takeWhile isOctal
  if !digits.isEmpty then
    (Char.ofNat (Ascii.numberOf 8 digits % 256), text.drop digits.length)
  else
    match text with
    | c :: rest =>
      match letterEscapes.lookup c with
      | some escaped => (escaped, rest)
      | none => ('\\', c :: rest)
    | [] => ('\\', [])

/-- A text with its escapes replaced, and whether it says that nothing follows. -/
def unescape : Nat → Chars → Chars × Bool
  | 0, text => (text, false)
  | _, [] => ([], false)
  | fuel + 1, '\\' :: rest =>
    match rest with
    | 'c' :: _ => ([], true)
    | rest =>
      let digits := match rest with
        | '0' :: d :: more => if isOctal d then d :: more else rest
        | rest => rest
      let (c, rest) := escape digits
      let (text, stops) := unescape fuel rest
      (c :: text, stops)
  | fuel + 1, c :: rest =>
    let (text, stops) := unescape fuel rest
    (c :: text, stops)

/-- A text with its escapes replaced, and whether it says that nothing follows. -/
def unescaped (text : Chars) : Chars × Bool := unescape (text.length + 1) text

/-! Formats -/

structure Directive where
  left : Bool
  zeros : Bool
  plus : Bool
  space : Bool
  alternative : Bool
  width : Nat
  precision : Option Nat

def Directive.pad (d : Directive) (text : Chars) : Chars :=
  let missing := d.width - text.length
  if d.left then text ++ List.replicate missing ' ' else List.replicate missing ' ' ++ text

def digitsOf (base : Nat) (upper : Bool) (n : Nat) : Chars :=
  let digits := Nat.toDigits base n
  if upper then digits.map Char.toUpper else digits

def Directive.number (d : Directive) (sign mark digits : Chars) : Chars :=
  let digits := List.replicate (d.precision.getD 1 - digits.length) '0' ++ digits
  let zeros := if d.zeros && !d.left && d.precision.isNone then
      d.width - (sign.length + mark.length + digits.length) else 0
  d.pad (sign ++ mark ++ List.replicate zeros '0' ++ digits)

def quotedChar? : Chars → Option Nat
  | '\x22' :: rest | '\x27' :: rest => some ((rest.head?.map Char.toNat).getD 0)
  | _ => none

def numberOf (text : Chars) : Int × Bool :=
  match quotedChar? text, text with
  | some n, _ => (n, true)
  | none, [] => (0, true)
  | none, text =>
    let (negative, text) := match text.dropWhile (· = ' ') with
      | '-' :: rest => (true, rest)
      | '+' :: rest => (false, rest)
      | text => (false, text)
    let (value, digits, rest) := match text with
      | '0' :: 'x' :: rest =>
        let digits := rest.takeWhile Ascii.isHexDigit
        (Ascii.numberOf 16 digits, digits, rest.drop digits.length)
      | '0' :: rest =>
        let digits := rest.takeWhile isOctal
        (Ascii.numberOf 8 digits, ['0'], rest.drop digits.length)
      | text =>
        let digits := text.takeWhile Ascii.isDigit
        (Ascii.numberOf 10 digits, digits, text.drop digits.length)
    (if negative then -(value : Int) else value, !digits.isEmpty && rest.isEmpty)

inductive FormatFault where
  | badArgument
  | badDirective (directive : Chars)
  | unfinished
  deriving DecidableEq, Repr

structure Formatted where
  text : Chars
  arguments : List Chars
  fault : Option FormatFault
  stopped : Bool

def maxSigned : Int := 2 ^ 63 - 1

def maxUnsigned : Int := 2 ^ 64 - 1

/-- A value by a directive: its text, whether it is at fault, and whether nothing
follows. -/
def Directive.write (d : Directive) (kind : Char) (argument : Chars) :
    Option (Chars × Bool × Bool) :=
  let cut (text : Chars) : Chars := d.precision.elim text text.take
  let signed (negative : Bool) : Chars :=
    if negative then ['-'] else if d.plus then ['+'] else if d.space then [' '] else []
  let unsigned (base : Nat) (upper : Bool) (mark : Chars) : Chars × Bool × Bool :=
    let (n, whole) := numberOf argument
    let fits := -maxUnsigned ≤ n && n ≤ maxUnsigned
    let n := if fits then (n % 2 ^ 64).toNat else maxUnsigned.toNat
    (d.number [] (if d.alternative && n ≠ 0 then mark else []) (digitsOf base upper n),
      !whole || !fits, false)
  let real (kind : Char) (upper : Bool) : Chars × Bool × Bool :=
    let (x, whole) : Real × Bool := match quotedChar? argument, argument with
      | some n, _ => (Real.ofFraction false n 1, true)
      | none, [] => (.finite (.zero false), true)
      | none, argument =>
        match Real.at? argument with
        | some (x, rest) => (x, rest.isEmpty && x.isInRange argument)
        | none => (.finite (.zero false), false)
    let isFinite := match x with
      | .finite _ => true
      | _ => false
    let digits := x.text kind d.precision d.alternative
    let digits := if upper then digits.map Char.toUpper else digits
    let sign := signed x.isNegative
    let zeros := if d.zeros && isFinite && !d.left then d.width - (sign.length + digits.length)
      else 0
    (d.pad (sign ++ List.replicate zeros '0' ++ digits), !whole, false)
  match kind with
  | 's' => some (d.pad (cut argument), false, false)
  | 'b' =>
    let (text, stops) := unescaped argument
    some (d.pad (cut text), false, stops)
  | 'c' => some (d.pad (argument.take 1), false, false)
  | 'd' | 'i' =>
    let (n, whole) := numberOf argument
    let fits := -maxSigned - 1 ≤ n && n ≤ maxSigned
    let n := max (-maxSigned - 1) (min n maxSigned)
    some (d.number (signed (n < 0)) [] (digitsOf 10 false n.natAbs), !whole || !fits, false)
  | 'u' => some (unsigned 10 false [])
  | 'o' => some (unsigned 8 false ['0'])
  | 'x' => some (unsigned 16 false ['0', 'x'])
  | 'X' => some (unsigned 16 true ['0', 'X'])
  | 'e' | 'f' | 'g' => some (real kind false)
  | 'E' | 'F' | 'G' => some (real (Ascii.lower kind) true)
  | _ => none

def directiveNumber (text : Chars) (arguments : List Chars) : Nat × Chars × List Chars :=
  match text with
  | '*' :: rest => ((numberOf (arguments.headD [])).1.toNat, rest, arguments.drop 1)
  | text =>
    let digits := text.takeWhile Ascii.isDigit
    (Ascii.numberOf 10 digits, text.drop digits.length, arguments)

def formatOnce : Nat → Chars → List Chars → Formatted
  | 0, _, arguments => ⟨[], arguments, none, false⟩
  | _, [], arguments => ⟨[], arguments, none, false⟩
  | fuel + 1, '\\' :: rest, arguments =>
    let (c, rest) := escape rest
    let later := formatOnce fuel rest arguments
    { later with text := c :: later.text }
  | fuel + 1, '%' :: '%' :: rest, arguments =>
    let later := formatOnce fuel rest arguments
    { later with text := '%' :: later.text }
  | fuel + 1, '%' :: whole, arguments =>
    let flags := whole.takeWhile "#-+ 0".toList.contains
    let (width, rest, arguments) := directiveNumber (whole.drop flags.length) arguments
    let (precision, rest, arguments) := match rest with
      | '.' :: rest =>
        let (precision, rest, arguments) := directiveNumber rest arguments
        (some precision, rest, arguments)
      | rest => (none, rest, arguments)
    let d : Directive := ⟨flags.contains '-', flags.contains '0', flags.contains '+',
      flags.contains ' ', flags.contains '#', width, precision⟩
    match rest with
    | [] => ⟨[], arguments, some .unfinished, true⟩
    | kind :: rest =>
      match d.write kind (arguments.headD []) with
      | none =>
        let directive := '%' :: whole.take (whole.length - rest.length)
        ⟨[], arguments, some (.badDirective directive), true⟩
      | some (text, failed, stops) =>
        let arguments := arguments.drop 1
        let fault := if failed then some .badArgument else none
        if stops then ⟨text, arguments, fault, true⟩
        else
          let later := formatOnce fuel rest arguments
          { later with text := text ++ later.text, fault := later.fault.or fault }
  | fuel + 1, c :: rest, arguments =>
    let later := formatOnce fuel rest arguments
    { later with text := c :: later.text }

/-- Uses a format until no argument is left: the text, and what was wrong. -/
def format : Nat → Chars → List Chars → Chars × Option FormatFault
  | 0, _, _ => ([], none)
  | fuel + 1, text, arguments =>
    let once := formatOnce (text.length + 1) text arguments
    if once.stopped || once.arguments.isEmpty || once.arguments.length = arguments.length then
      (once.text, once.fault)
    else
      let (later, fault) := format fuel text once.arguments
      (once.text ++ later, fault.or once.fault)

end Provenance.Shell
