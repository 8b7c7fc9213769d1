import Provenance.Bytes

/-!
Base 58 text for bytes: the bytes as one big-endian number to base 58, with a
`1` in front for every leading zero byte.
-/

namespace Provenance.Base58

/-- The fifty-eight digits. Look-alikes such as zero and capital O are left out. -/
def alphabet : List Char :=
  "123456789ABCDEFGHJKLMNPQRSTUVWXYZabcdefghijkmnopqrstuvwxyz".toList

def digit (value : Nat) : Char := alphabet.getD value '1'

/-- The digits of a positive number in front of `acc`, the highest first. -/
def digits (n : Nat) (acc : List Char) : List Char :=
  if h : n = 0 then acc else digits (n / 58) (digit (n % 58) :: acc)
  termination_by n
  decreasing_by omega

def encode (bytes : Bytes) : String :=
  let zeros := (bytes.takeWhile (· = 0)).length
  String.ofList (List.replicate zeros '1' ++ digits bytes.bigEndian [])

end Provenance.Base58
