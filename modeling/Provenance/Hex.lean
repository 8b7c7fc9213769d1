import Provenance.Bytes
import Provenance.Text.Quoted

/-!
Hexadecimal text for bytes. Writing uses two lower-case digits a byte; reading
takes either case and at most one leading `0x` or `0X`. A text that is not hex
is refused either for its odd length or for its first byte that is no digit.
-/

namespace Provenance.Hex

def digit (value : Nat) : Char :=
  if value < 10 then Char.ofNat (48 + value) else Char.ofNat (87 + value)

def value? (byte : UInt8) : Option Nat :=
  let n := byte.toNat
  if 48 ≤ n ∧ n ≤ 57 then some (n - 48)
  else if 97 ≤ n ∧ n ≤ 102 then some (n - 87)
  else if 65 ≤ n ∧ n ≤ 70 then some (n - 55)
  else none

def pair (byte : UInt8) : List Char :=
  [digit (byte.toNat / 16), digit (byte.toNat % 16)]

def encode (bytes : Bytes) : String := String.ofList (bytes.flatMap pair)

/-- Hex with the marker that every persisted hash carries. -/
def marked (bytes : Bytes) : String := "0x" ++ encode bytes

/-- Why a text is not hex. A position counts the bytes behind the marker. -/
inductive Fault where
  | oddLength
  | badByte (byte : UInt8) (position : Nat)
  deriving DecidableEq, Repr

/-- The wording of a failure. A byte is shown as the character of its number. -/
def Fault.message : Fault → String
  | .oddLength => "Odd number of digits"
  | .badByte byte position =>
    "Invalid character " ++ Quoted.char (Char.ofNat byte.toNat) ++ " at position " ++
      toString position

/-- Reads digit pairs from the byte at `position` onward. -/
def decodePairs (position : Nat) : Bytes → Except Fault Bytes
  | [] => .ok []
  | [_] => .error .oddLength
  | high :: low :: rest =>
    match value? high, value? low with
    | none, _ => .error (.badByte high position)
    | some _, none => .error (.badByte low (position + 1))
    | some h, some l => (decodePairs (position + 2) rest).map (UInt8.ofNat (16 * h + l) :: ·)

def unmarked : Bytes → Bytes
  | 48 :: 120 :: rest => rest
  | 48 :: 88 :: rest => rest
  | bytes => bytes

/-- Reads hex from a text. The length is judged before any digit. -/
def decode (text : String) : Except Fault Bytes :=
  let digits := unmarked (Bytes.ofText text)
  if digits.length % 2 = 0 then decodePairs 0 digits else .error .oddLength

end Provenance.Hex
