import Provenance.Bytes
import Provenance.Number.Power

/-!
Reading bytes as UTF-8. The bytes fall into pieces, each of them either a
character or a longest run that begins a character and cannot end it. Strict
reading wants characters only; lenient reading writes the replacement
character for every other piece.
-/

namespace Provenance.Utf8

/-- For the first byte of a character of several bytes: how many follow, and
the least and the greatest value of the next one. -/
def lead? (byte : UInt8) : Option (Nat × Nat × Nat) :=
  let n := byte.toNat
  if 0xC2 ≤ n ∧ n ≤ 0xDF then some (1, 0x80, 0xBF)
  else if n = 0xE0 then some (2, 0xA0, 0xBF)
  else if n = 0xED then some (2, 0x80, 0x9F)
  else if 0xE1 ≤ n ∧ n ≤ 0xEF then some (2, 0x80, 0xBF)
  else if n = 0xF0 then some (3, 0x90, 0xBF)
  else if 0xF1 ≤ n ∧ n ≤ 0xF3 then some (3, 0x80, 0xBF)
  else if n = 0xF4 then some (3, 0x80, 0x8F)
  else none

/-- The longest run of at most `count` continuation bytes, the first of them
between `low` and `high`. -/
def tails (count low high : Nat) : Bytes → Bytes
  | [] => []
  | byte :: rest =>
    match count with
    | 0 => []
    | count + 1 =>
      if low ≤ byte.toNat ∧ byte.toNat ≤ high then
        byte :: tails count 0x80 0xBF rest
      else []

def character (first : UInt8) (count : Nat) (following : Bytes) : Char :=
  let payload := first.toNat % 2 ^ (6 - count)
  Char.ofNat (following.foldl (fun acc byte => acc * 64 + byte.toNat % 64) payload)

/-- The pieces of a byte string: characters, and the runs that are none. -/
def pieces : Bytes → List (Except Bytes Char)
  | [] => []
  | first :: rest =>
    if first.toNat < 0x80 then
      .ok (Char.ofNat first.toNat) :: pieces rest
    else
      match lead? first with
      | none => .error [first] :: pieces rest
      | some (count, low, high) =>
        let following := tails count low high rest
        let piece :=
          if following.length = count then .ok (character first count following)
          else .error (first :: following)
        piece :: pieces (rest.drop following.length)
  termination_by bytes => bytes.length
  decreasing_by all_goals simp; try omega

def decode? (bytes : Bytes) : Option String :=
  ((pieces bytes).mapM Except.toOption).map String.ofList

def decodeLenient (bytes : Bytes) : String :=
  String.ofList ((pieces bytes).map fun piece => piece.toOption.getD '\uFFFD')

end Provenance.Utf8
