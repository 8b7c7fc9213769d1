import Provenance.Bytes
import Provenance.Number.Power

/-!
The MD5 digest of RFC 1321.
-/

namespace Provenance.Md5

abbrev Chaining := Vector UInt32 4

def initial : Chaining := #v[0x67452301, 0xEFCDAB89, 0x98BADCFE, 0x10325476]

def roundConstants : Array UInt32 := #[
  0xD76AA478, 0xE8C7B756, 0x242070DB, 0xC1BDCEEE, 0xF57C0FAF, 0x4787C62A, 0xA8304613, 0xFD469501,
  0x698098D8, 0x8B44F7AF, 0xFFFF5BB1, 0x895CD7BE, 0x6B901122, 0xFD987193, 0xA679438E, 0x49B40821,
  0xF61E2562, 0xC040B340, 0x265E5A51, 0xE9B6C7AA, 0xD62F105D, 0x02441453, 0xD8A1E681, 0xE7D3FBC8,
  0x21E1CDE6, 0xC33707D6, 0xF4D50D87, 0x455A14ED, 0xA9E3E905, 0xFCEFA3F8, 0x676F02D9, 0x8D2A4C8A,
  0xFFFA3942, 0x8771F681, 0x6D9D6122, 0xFDE5380C, 0xA4BEEA44, 0x4BDECFA9, 0xF6BB4B60, 0xBEBFBC70,
  0x289B7EC6, 0xEAA127FA, 0xD4EF3085, 0x04881D05, 0xD9D4D039, 0xE6DB99E5, 0x1FA27CF8, 0xC4AC5665,
  0xF4292244, 0x432AFF97, 0xAB9423A7, 0xFC93A039, 0x655B59C3, 0x8F0CCC92, 0xFFEFF47D, 0x85845DD1,
  0x6FA87E4F, 0xFE2CE6E0, 0xA3014314, 0x4E0811A1, 0xF7537E82, 0xBD3AF235, 0x2AD7D2BB, 0xEB86D391]

def rotations (quarter : Nat) : List UInt32 :=
  ([[7, 12, 17, 22], [5, 9, 14, 20], [4, 11, 16, 23], [6, 10, 15, 21]][quarter]?).getD []

def rotateLeft (word amount : UInt32) : UInt32 :=
  (word <<< amount) ||| (word >>> (32 - amount))

def words (block : Array UInt8) : Array UInt32 :=
  let byte (i : Nat) : UInt32 := (block.getD i 0).toUInt32
  Array.ofFn fun i : Fin 16 =>
    byte (4 * i.val) ||| (byte (4 * i.val + 1) <<< 8) |||
      (byte (4 * i.val + 2) <<< 16) ||| (byte (4 * i.val + 3) <<< 24)

def round (words : Array UInt32) (v : Chaining) (i : Nat) : Chaining :=
  let a := v.get 0
  let b := v.get 1
  let c := v.get 2
  let d := v.get 3
  let quarter := i / 16
  let mixed : UInt32 := match quarter with
    | 0 => (b &&& c) ||| (~~~b &&& d)
    | 1 => (d &&& b) ||| (~~~d &&& c)
    | 2 => b ^^^ c ^^^ d
    | _ => c ^^^ (b ||| ~~~d)
  let place := match quarter with
    | 0 => i
    | 1 => (5 * i + 1) % 16
    | 2 => (3 * i + 5) % 16
    | _ => 7 * i % 16
  let sum := a + mixed + roundConstants.getD i 0 + words.getD place 0
  let amount := ((rotations quarter)[i % 4]?).getD 0
  #v[d, b + rotateLeft sum amount, b, c]

def compress (state : Chaining) (block : Array UInt8) : Chaining :=
  let mixed := (List.range 64).foldl (round (words block)) state
  Vector.ofFn fun i => state[i] + mixed[i]

/-- The bytes, a one bit, zeros and the length in bits, a multiple of a block. -/
def pad (bytes : Bytes) : Bytes :=
  let zeros := (119 - bytes.length % 64) % 64
  let bits := 8 * bytes.length
  bytes ++ [0x80] ++ List.replicate zeros 0 ++
    (List.range 8).map fun k => UInt8.ofNat (bits / 256 ^ k)

def compressAll (state : Chaining) (bytes : Bytes) : Chaining :=
  match bytes with
  | [] => state
  | first :: rest =>
    compressAll (compress state (first :: rest.take 63).toArray) (rest.drop 63)
  termination_by bytes.length
  decreasing_by simp only [List.length_drop, List.length_cons]; omega

def digest (bytes : Bytes) : Bytes :=
  (compressAll initial (pad bytes)).toList.flatMap fun (word : UInt32) =>
    [word.toUInt8, (word >>> 8).toUInt8, (word >>> 16).toUInt8, (word >>> 24).toUInt8]

end Provenance.Md5
