import Provenance.Number.Power
import Provenance.Text.Basic

/-!
Reading numbers below `2 ^ 64` from text: at least one decimal digit, leading
zeros allowed, with at most one plus sign in front.
-/

namespace Provenance.Unsigned

/-- Why a text is no such number. -/
inductive Fault where
  | empty
  | badDigit
  | tooLarge
  deriving DecidableEq, Repr

def Fault.message : Fault → String
  | .empty => "cannot parse integer from empty string"
  | .badDigit => "invalid digit found in string"
  | .tooLarge => "number too large to fit in target type"

/-- Reads the digits. A number that grows too large is refused at the digit
where it does, before any later character is looked at. -/
def digits (acc : Nat) : List Char → Except Fault Nat
  | [] => .ok acc
  | c :: rest =>
    if Ascii.isDigit c then
      let n := 10 * acc + Ascii.hexValue c
      if n < 2 ^ 64 then digits n rest else .error .tooLarge
    else .error .badDigit

def parse (text : List Char) : Except Fault Nat :=
  match text with
  | [] => .error .empty
  | ['+'] => .error .badDigit
  | '+' :: rest => digits 0 rest
  | rest => digits 0 rest

end Provenance.Unsigned
