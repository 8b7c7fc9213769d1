import Provenance.Number.Power

/-!
Finite binary64 numbers as exact values. Every operation rounds its result to the
nearest such number, ties to the even mantissa. A decimal is read by moving the
point of its digits; writing finds the fewest decimal digits that stand for a
number and no other, and of those the nearest.
-/

namespace Provenance

/-- The number `mantissa * 2 ^ exponent`, negated if `negative`. The mantissa
has at most fifty-three bits and the exponent is at least `-1074`. -/
structure Binary64 where
  negative : Bool
  mantissa : Nat
  exponent : Int
  deriving DecidableEq, Repr

namespace Binary64

def minExponent : Int := -1074

def maxExponent : Int := 971

def zero (negative : Bool) : Binary64 := ⟨negative, 0, minExponent⟩

/-- `num / den` rounded to a whole number, ties to even. -/
def roundDiv (num den : Nat) : Nat :=
  let floor := num / den
  let twice := 2 * (num % den)
  if twice > den ∨ (twice = den ∧ floor % 2 = 1) then floor + 1 else floor

/-- The quotient of `num / den` and `2 ^ exponent` as a fraction. -/
def scaleDown (num den : Nat) (exponent : Int) : Nat × Nat :=
  if exponent ≥ 0 then (num, den * 2 ^ exponent.toNat) else (num * 2 ^ (-exponent).toNat, den)

def ofFraction? (negative : Bool) (num den : Nat) : Option Binary64 :=
  let guess : Int := (Nat.log2 num : Int) - Nat.log2 den - 52
  let fits (e : Int) : Bool :=
    let (n, d) := scaleDown num den e
    n < d * 2 ^ 53
  let exponent := max minExponent (if fits (guess - 1) then guess - 1
    else if fits guess then guess else guess + 1)
  let (n, d) := scaleDown num den exponent
  let mantissa := roundDiv n d
  let (mantissa, exponent) :=
    if mantissa = 2 ^ 53 then (2 ^ 52, exponent + 1) else (mantissa, exponent)
  if exponent > maxExponent then none else some ⟨negative, mantissa, exponent⟩

def ofNat? (negative : Bool) (n : Nat) : Option Binary64 :=
  if n = 0 then some (zero negative) else ofFraction? negative n 1

def tenTo? (power : Nat) : Option Binary64 := ofNat? false (10 ^ power)

def fraction (x : Binary64) : Nat × Nat :=
  if x.exponent ≥ 0 then (x.mantissa * 2 ^ x.exponent.toNat, 1)
  else (x.mantissa, 2 ^ (-x.exponent).toNat)

def times? (x y : Binary64) : Option Binary64 :=
  let negative := x.negative != y.negative
  let (a, b) := x.fraction
  let (c, d) := y.fraction
  if a * c = 0 then some (zero negative) else ofFraction? negative (a * c) (b * d)

/-- The quotient by a number that is not zero, rounded once, if it is in range. -/
def over? (x y : Binary64) : Option Binary64 :=
  let negative := x.negative != y.negative
  let (a, b) := x.fraction
  let (c, d) := y.fraction
  if a * d = 0 then some (zero negative) else ofFraction? negative (a * d) (b * c)

def maxPower : Nat := 308

/-- A number divided so many times by the largest power of ten, each time rounded. -/
def lowered? : Nat → Binary64 → Option Binary64
  | 0, x => some x
  | count + 1, x =>
    if x.mantissa = 0 then some x
    else do lowered? count (← x.over? (← tenTo? maxPower))

/-- A number with its point moved, by one operation with a power of ten for each
`maxPower` places; each rounds. -/
def moved? (x : Binary64) (places : Int) : Option Binary64 :=
  if x.mantissa = 0 then some x
  else if 0 ≤ places then
    if places ≤ maxPower then do x.times? (← tenTo? places.toNat) else none
  else do
    let down := (-places).toNat
    let whole := (down - 1) / maxPower
    let y ← lowered? whole x
    if y.mantissa = 0 then some y else y.over? (← tenTo? (down - whole * maxPower))

/-- The number that `digits * 10 ^ exponent` is read as, if it is in range: the
digits are rounded, and so is each move of the point. -/
def ofDecimal? (negative : Bool) (digits : Nat) (exponent : Int) : Option Binary64 :=
  (ofNat? negative digits).bind (moved? · exponent)

structure Decimal where
  digits : Nat
  exponent : Int
  deriving DecidableEq, Repr

/-- Compares `a * 10 ^ p` with the fraction `num / den`: whether it is at most that. -/
def decimalLe (a : Nat) (p : Int) (num den : Nat) : Bool :=
  if p ≥ 0 then a * 10 ^ p.toNat * den ≤ num else a * den ≤ num * 10 ^ (-p).toNat

/-- Whether `a * 10 ^ p` is at least the fraction `num / den`. -/
def decimalGe (a : Nat) (p : Int) (num den : Nat) : Bool :=
  if p ≥ 0 then num ≤ a * 10 ^ p.toNat * den else num * 10 ^ (-p).toNat ≤ a * den

/-- The fraction `num / den` divided by `10 ^ p`, rounded down. -/
def floorDiv (num den : Nat) (p : Int) : Nat :=
  if p ≥ 0 then num / (den * 10 ^ p.toNat) else num * 10 ^ (-p).toNat / den

def leadingPower (num den : Nat) : Int :=
  if den ≤ num then (Nat.toDigits 10 (num / den)).length - 1
  else
    -- as many digits as the rounded-up inverse has, less one for an exact power
    -(Nat.toDigits 10 ((den + num - 1) / num - 1)).length

/-- The shortest decimal that is nearer to a number with a positive mantissa than
to any other.
The numbers that round to it lie between two bounds, which belong to them when
the mantissa is even; on each decimal grid only the two neighbours of the
number can lie there. -/
def shortest (x : Binary64) : Decimal :=
  let m := x.mantissa
  -- everything in quarters of a unit of the mantissa, so that bounds are whole
  let e := x.exponent - 2
  let scale (k : Nat) : Nat × Nat := if e ≥ 0 then (k * 2 ^ e.toNat, 1) else (k, 2 ^ (-e).toNat)
  let below := if m = 2 ^ 52 ∧ x.exponent > minExponent then 4 * m - 1 else 4 * m - 2
  let (lowNum, den) := scale below
  let (num, _) := scale (4 * m)
  let (highNum, _) := scale (4 * m + 2)
  let closed := m % 2 = 0
  let inside (a : Nat) (p : Int) : Bool :=
    a ≠ 0 &&
    (if closed then decimalGe a p lowNum den && decimalLe a p highNum den
     else !decimalLe a p lowNum den && !decimalGe a p highNum den)
  let top := leadingPower num den
  let attempt (n : Nat) : Option Decimal :=
    let p := top - n + 1
    let lower := floorDiv num den p
    let upper := lower + 1
    match inside lower p, inside upper p with
    | true, false => some ⟨lower, p⟩
    | false, true => some ⟨upper, p⟩
    | true, true =>
      -- the nearer of the two; the middle goes to the even one
      let middle := 2 * lower + 1
      if !decimalLe middle p (2 * num) den then some ⟨lower, p⟩
      else if !decimalGe middle p (2 * num) den then some ⟨upper, p⟩
      else if lower % 2 = 0 then some ⟨lower, p⟩ else some ⟨upper, p⟩
    | false, false => none
  ((List.range 17).findSome? fun n => attempt (n + 1)).getD ⟨0, 0⟩

def Decimal.trim (d : Decimal) : Nat → Decimal
  | 0 => d
  | fuel + 1 =>
    if d.digits ≠ 0 ∧ d.digits % 10 = 0 then
      Decimal.trim ⟨d.digits / 10, d.exponent + 1⟩ fuel
    else d

/-- The digits of the shortest decimal and the place of its point: the number
is `0.d₁d₂… * 10 ^ point`. -/
def digitsAndPoint (x : Binary64) : List Char × Int :=
  if x.mantissa = 0 then (['0'], 1)
  else
    let d := x.shortest.trim 20
    let digits := Nat.toDigits 10 d.digits
    (digits, d.exponent + digits.length)

def zeros (n : Nat) : List Char := List.replicate n '0'

/-- Digits written with a point and at least one digit on each side of it. -/
def positional (digits : List Char) (point : Int) : List Char :=
  if point ≤ 0 then ['0', '.'] ++ zeros (-point).toNat ++ digits
  else if digits.length ≤ point.toNat then
    digits ++ zeros (point.toNat - digits.length) ++ ['.', '0']
  else digits.take point.toNat ++ ['.'] ++ digits.drop point.toNat

def sign (x : Binary64) : List Char := if x.negative then ['-'] else []

def plainText (x : Binary64) : String :=
  let (digits, point) := x.digitsAndPoint
  String.ofList (x.sign ++ positional digits point)

/-- The nearest natural number, a half rounded up; zero for negative numbers. -/
def nearestNat (x : Binary64) : Nat :=
  if x.negative then 0
  else if 0 ≤ x.exponent then x.mantissa * 2 ^ x.exponent.toNat
  else
    let unit := 2 ^ (-x.exponent).toNat
    (2 * x.mantissa + unit) / (2 * unit)

/-- The number as a document holds it: positional while the point stands at most
sixteen digits to the right and four zeros to the left, else with an exponent and
its sign. -/
def text (x : Binary64) : String :=
  let (digits, point) := x.digitsAndPoint
  if -5 < point ∧ point ≤ 16 then String.ofList (x.sign ++ positional digits point)
  else
    let body := match digits with
      | [d] => [d]
      | d :: rest => d :: '.' :: rest
      | [] => []
    let mark := if 0 < point then ['e', '+'] else ['e']
    String.ofList (x.sign ++ body ++ mark) ++ toString (point - 1)

end Binary64

end Provenance
