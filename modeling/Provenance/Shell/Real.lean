import Provenance.Number.Binary64
import Provenance.Shell.Word
import Provenance.Text.Basic

/-!
Numbers with a fraction as formats write them: with a given count of places, or with
an exponent, rounded to the nearest such text, ties to the even digit.
-/

namespace Provenance.Shell

inductive Real where
  | finite (x : Binary64)
  | infinite (negative : Bool)
  | notNumber (negative : Bool)
  deriving DecidableEq, Repr

namespace Real

def ofFraction (negative : Bool) (num den : Nat) : Real :=
  if num = 0 then .finite (.zero negative)
  else
    match Binary64.ofFraction? negative num den with
    | some x => .finite x
    | none => .infinite negative

def maxExponent : Nat := 5000

def exponentAt (mark : Char) (text : Chars) : Int × Chars :=
  match text with
  | c :: rest =>
    if Ascii.lower c ≠ mark then (0, text)
    else
      let (negative, rest) := match rest with
        | '-' :: rest => (true, rest)
        | '+' :: rest => (false, rest)
        | rest => (false, rest)
      let digits := rest.takeWhile Ascii.isDigit
      if digits.isEmpty then (0, text)
      else
        let n : Int := min maxExponent (Ascii.numberOf 10 digits)
        (if negative then -n else n, rest.drop digits.length)
  | [] => (0, [])

def scaled (negative : Bool) (digits : Nat) (base : Nat) (power : Int) : Real :=
  if 0 ≤ power then ofFraction negative (digits * base ^ power.toNat) 1
  else ofFraction negative digits (base ^ (-power).toNat)

/-- Digits with at most one point among them: those before and behind it, and what
follows. -/
def pointed (valid : Char → Bool) (text : Chars) : Chars × Chars × Chars :=
  let whole := text.takeWhile valid
  match text.drop whole.length with
  | '.' :: rest =>
    let part := rest.takeWhile valid
    if (whole ++ part).isEmpty then ([], [], text) else (whole, part, rest.drop part.length)
  | rest => (whole, [], rest)

/-- The number at the front of a text without a sign, and what follows it. -/
def unsignedAt (negative : Bool) (text : Chars) : Option (Real × Chars) :=
  let word (name : String) : Bool := (text.take name.length).map Ascii.lower = name.toList
  if word "infinity" then some (.infinite negative, text.drop 8)
  else if word "inf" then some (.infinite negative, text.drop 3)
  else if word "nan" then some (.notNumber negative, text.drop 3)
  else
    let isHex := match text with
      | '0' :: x :: d :: _ => Ascii.lower x = 'x' && (Ascii.isHexDigit d || d = '.')
      | _ => false
    let (whole, part, rest) :=
      if isHex then pointed Ascii.isHexDigit (text.drop 2) else pointed Ascii.isDigit text
    if (whole ++ part).isEmpty then none
    else if isHex then
      let (power, rest) := exponentAt 'p' rest
      some (scaled negative (Ascii.numberOf 16 (whole ++ part)) 2 (power - 4 * part.length), rest)
    else
      let (power, rest) := exponentAt 'e' rest
      some (scaled negative (Ascii.numberOf 10 (whole ++ part)) 10 (power - part.length), rest)

def at? (text : Chars) : Option (Real × Chars) :=
  match text.dropWhile fun c => c = ' ' || ('\t' ≤ c && c ≤ '\x0d') with
  | '-' :: rest => unsignedAt true rest
  | '+' :: rest => unsignedAt false rest
  | rest => unsignedAt false rest

def isInRange (x : Real) (text : Chars) : Bool :=
  match x with
  | .infinite _ => !text.any Ascii.isDigit
  | .finite x =>
    x.mantissa ≠ 0 || !(text.takeWhile fun c => Ascii.lower c ≠ 'e').any fun c => '1' ≤ c && c ≤ '9'
  | .notNumber _ => true

def isNegative : Real → Bool
  | .finite x => x.negative
  | .infinite negative | .notNumber negative => negative

/-! Digits -/

/-- Digits with a point so many places before their end. -/
def withPoint (places : Nat) (always : Bool) (digits : Chars) : Chars :=
  let digits := List.replicate (places + 1 - digits.length) '0' ++ digits
  let whole := digits.take (digits.length - places)
  if places = 0 then (if always then whole ++ ['.'] else whole)
  else whole ++ '.' :: digits.drop whole.length

def fixed (x : Binary64) (places : Nat) (always : Bool) : Chars :=
  let (num, den) := x.fraction
  withPoint places always (Nat.toDigits 10 (Binary64.roundDiv (num * 10 ^ places) den))

/-- A number rounded to one digit and so many places behind it, times a power of ten. -/
def rounded (x : Binary64) (places : Nat) : Nat × Int :=
  let (num, den) := x.fraction
  if num = 0 then (0, 0)
  else
    let power := Binary64.leadingPower num den
    let shift : Int := places - power
    let digits := if 0 ≤ shift then Binary64.roundDiv (num * 10 ^ shift.toNat) den
      else Binary64.roundDiv num (den * 10 ^ (-shift).toNat)
    if digits = 10 ^ (places + 1) then (digits / 10, power + 1) else (digits, power)

def exponentText (power : Int) : Chars :=
  let digits := Nat.toDigits 10 power.natAbs
  'e' :: (if power < 0 then '-' else '+') :: List.replicate (2 - digits.length) '0' ++ digits

def scientific (x : Binary64) (places : Nat) (always : Bool) : Chars :=
  let (digits, power) := rounded x places
  withPoint places always (Nat.toDigits 10 digits) ++ exponentText power

/-- Drops the zeros at the end of what stands behind a point, and the point if nothing
is left. -/
def withoutZeros (text : Chars) : Chars :=
  let mantissa := text.takeWhile (· ≠ 'e')
  let rest := text.drop mantissa.length
  if mantissa.contains '.' then
    let trimmed := mantissa.reverse.dropWhile (· = '0')
    (if trimmed.head? = some '.' then trimmed.drop 1 else trimmed).reverse ++ rest
  else text

/-- A number in the shorter of both ways, with so many digits that count. -/
def general (x : Binary64) (digits : Nat) (always : Bool) : Chars :=
  let digits := max 1 digits
  let power := (rounded x (digits - 1)).2
  let text :=
    if -4 ≤ power ∧ power < digits then fixed x ((digits : Int) - 1 - power).toNat always
    else scientific x (digits - 1) always
  if always then text else withoutZeros text

/-- A number without its sign by a letter: `f`, `e` or `g`. -/
def text (kind : Char) (precision : Option Nat) (always : Bool) : Real → Chars
  | .finite x =>
    let precision := precision.getD 6
    match kind with
    | 'f' => fixed x precision always
    | 'e' => scientific x precision always
    | _ => general x precision always
  | .infinite _ => "inf".toList
  | .notNumber _ => "nan".toList

end Real

end Provenance.Shell
