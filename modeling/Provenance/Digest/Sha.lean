import Provenance.Bytes
import Provenance.Number.Power

/-!
The SHA-256 digest of FIPS 180-4, used to check that a downloaded file is the
one a manifest names.
-/

namespace Provenance.Sha256

abbrev Chaining := Vector UInt32 8

def initial : Chaining := #v[
  0x6A09E667, 0xBB67AE85, 0x3C6EF372, 0xA54FF53A,
  0x510E527F, 0x9B05688C, 0x1F83D9AB, 0x5BE0CD19]

def roundConstants : Array UInt32 := #[
  0x428A2F98, 0x71374491, 0xB5C0FBCF, 0xE9B5DBA5, 0x3956C25B, 0x59F111F1, 0x923F82A4, 0xAB1C5ED5,
  0xD807AA98, 0x12835B01, 0x243185BE, 0x550C7DC3, 0x72BE5D74, 0x80DEB1FE, 0x9BDC06A7, 0xC19BF174,
  0xE49B69C1, 0xEFBE4786, 0x0FC19DC6, 0x240CA1CC, 0x2DE92C6F, 0x4A7484AA, 0x5CB0A9DC, 0x76F988DA,
  0x983E5152, 0xA831C66D, 0xB00327C8, 0xBF597FC7, 0xC6E00BF3, 0xD5A79147, 0x06CA6351, 0x14292967,
  0x27B70A85, 0x2E1B2138, 0x4D2C6DFC, 0x53380D13, 0x650A7354, 0x766A0ABB, 0x81C2C92E, 0x92722C85,
  0xA2BFE8A1, 0xA81A664B, 0xC24B8B70, 0xC76C51A3, 0xD192E819, 0xD6990624, 0xF40E3585, 0x106AA070,
  0x19A4C116, 0x1E376C08, 0x2748774C, 0x34B0BCB5, 0x391C0CB3, 0x4ED8AA4A, 0x5B9CCA4F, 0x682E6FF3,
  0x748F82EE, 0x78A5636F, 0x84C87814, 0x8CC70208, 0x90BEFFFA, 0xA4506CEB, 0xBEF9A3F7, 0xC67178F2]

def rotateRight (word amount : UInt32) : UInt32 :=
  (word >>> amount) ||| (word <<< (32 - amount))

/-- The sixty-four words of a block's message schedule. -/
def schedule (block : Array UInt8) : Array UInt32 :=
  let byte (i : Nat) : UInt32 := (block.getD i 0).toUInt32
  let first : Array UInt32 := Array.ofFn fun i : Fin 16 =>
    (byte (4 * i.val) <<< 24) ||| (byte (4 * i.val + 1) <<< 16) |||
      (byte (4 * i.val + 2) <<< 8) ||| byte (4 * i.val + 3)
  (List.range 48).foldl (fun words k =>
    let t := k + 16
    let a := words.getD (t - 15) 0
    let b := words.getD (t - 2) 0
    let s0 := rotateRight a 7 ^^^ rotateRight a 18 ^^^ (a >>> 3)
    let s1 := rotateRight b 17 ^^^ rotateRight b 19 ^^^ (b >>> 10)
    words.push (words.getD (t - 16) 0 + s0 + words.getD (t - 7) 0 + s1)) first

def round (v : Chaining) (word : UInt32) : Chaining :=
  let s1 := rotateRight v[4] 6 ^^^ rotateRight v[4] 11 ^^^ rotateRight v[4] 25
  let choice := (v[4] &&& v[5]) ^^^ (~~~v[4] &&& v[6])
  let t1 := v[7] + s1 + choice + word
  let s0 := rotateRight v[0] 2 ^^^ rotateRight v[0] 13 ^^^ rotateRight v[0] 22
  let majority := (v[0] &&& v[1]) ^^^ (v[0] &&& v[2]) ^^^ (v[1] &&& v[2])
  #v[t1 + (s0 + majority), v[0], v[1], v[2], v[3] + t1, v[4], v[5], v[6]]

def compress (state : Chaining) (block : Array UInt8) : Chaining :=
  let words := schedule block
  let mixed := (List.range 64).foldl
    (fun v t => round v (roundConstants.getD t 0 + words.getD t 0)) state
  Vector.ofFn fun i => state[i] + mixed[i]

/-- The bytes, a one bit, zeros and the length in bits, a multiple of a block. -/
def pad (bytes : Bytes) : Bytes :=
  let zeros := (119 - bytes.length % 64) % 64
  let bits := 8 * bytes.length
  bytes ++ [0x80] ++ List.replicate zeros 0 ++
    (List.range 8).map fun k => UInt8.ofNat (bits / 256 ^ (7 - k))

def compressAll (state : Chaining) (bytes : Bytes) : Chaining :=
  match bytes with
  | [] => state
  | first :: rest =>
    compressAll (compress state (first :: rest.take 63).toArray) (rest.drop 63)
  termination_by bytes.length
  decreasing_by simp only [List.length_drop, List.length_cons]; omega

def digest (bytes : Bytes) : Bytes :=
  (compressAll initial (pad bytes)).toList.flatMap fun (word : UInt32) =>
    [(word >>> 24).toUInt8, (word >>> 16).toUInt8, (word >>> 8).toUInt8, word.toUInt8]

end Provenance.Sha256

/-!
The SHA-1 digest of FIPS 180-4.
-/

namespace Provenance.Sha1

abbrev Chaining := Vector UInt32 5

def initial : Chaining := #v[0x67452301, 0xEFCDAB89, 0x98BADCFE, 0x10325476, 0xC3D2E1F0]

def rotateLeft (word amount : UInt32) : UInt32 := Sha256.rotateRight word (32 - amount)

/-- The eighty words of a block's message schedule. -/
def schedule (block : Array UInt8) : Array UInt32 :=
  (List.range 64).foldl (fun words k =>
    let t := k + 16
    let word := words.getD (t - 3) 0 ^^^ words.getD (t - 8) 0 ^^^ words.getD (t - 14) 0 ^^^
      words.getD (t - 16) 0
    words.push (rotateLeft word 1)) ((Sha256.schedule block).extract 0 16)

def round (v : Chaining) (t : Nat) (word : UInt32) : Chaining :=
  let a := v.get 0
  let b := v.get 1
  let c := v.get 2
  let d := v.get 3
  let e := v.get 4
  let (mixed, constant) : UInt32 × UInt32 := match t / 20 with
    | 0 => ((b &&& c) ||| (~~~b &&& d), 0x5A827999)
    | 1 => (b ^^^ c ^^^ d, 0x6ED9EBA1)
    | 2 => ((b &&& c) ||| (b &&& d) ||| (c &&& d), 0x8F1BBCDC)
    | _ => (b ^^^ c ^^^ d, 0xCA62C1D6)
  #v[rotateLeft a 5 + mixed + e + constant + word, a, rotateLeft b 30, c, d]

def compress (state : Chaining) (block : Array UInt8) : Chaining :=
  let words := schedule block
  let mixed := (List.range 80).foldl (fun v t => round v t (words.getD t 0)) state
  Vector.ofFn fun i => state[i] + mixed[i]

def compressAll (state : Chaining) (bytes : Bytes) : Chaining :=
  match bytes with
  | [] => state
  | first :: rest =>
    compressAll (compress state (first :: rest.take 63).toArray) (rest.drop 63)
  termination_by bytes.length
  decreasing_by simp only [List.length_drop, List.length_cons]; omega

def digest (bytes : Bytes) : Bytes :=
  (compressAll initial (Sha256.pad bytes)).toList.flatMap fun (word : UInt32) =>
    [(word >>> 24).toUInt8, (word >>> 16).toUInt8, (word >>> 8).toUInt8, word.toUInt8]

end Provenance.Sha1
