import Provenance.Bytes

/-!
The 256-bit Keccak digest with the padding that has no suffix (a one bit, zeros,
a one bit). The state is twenty-five lanes of sixty-four bits; lane
`x + 5 * y` stands in column `x` and row `y`.
-/

namespace Provenance.Keccak

def rate : Nat := 136

abbrev Lanes := Vector UInt64 25

def roundConstants : List UInt64 := [
  0x0000000000000001, 0x0000000000008082, 0x800000000000808A, 0x8000000080008000,
  0x000000000000808B, 0x0000000080000001, 0x8000000080008081, 0x8000000000008009,
  0x000000000000008A, 0x0000000000000088, 0x0000000080008009, 0x000000008000000A,
  0x000000008000808B, 0x800000000000008B, 0x8000000000008089, 0x8000000000008003,
  0x8000000000008002, 0x8000000000000080, 0x000000000000800A, 0x800000008000000A,
  0x8000000080008081, 0x8000000000008080, 0x0000000080000001, 0x8000000080008008]

/-- By how many bits lane `x + 5 * y` turns. -/
def rotations : Vector UInt64 25 := #v[
  0, 1, 62, 28, 27,
  36, 44, 6, 55, 20,
  3, 10, 43, 25, 39,
  41, 45, 15, 21, 8,
  18, 2, 61, 56, 14]

def rotateLeft (lane amount : UInt64) : UInt64 :=
  if amount = 0 then lane else (lane <<< amount) ||| (lane >>> (64 - amount))

/-- Lane of column `x` and row `y`, both taken modulo five. -/
def lane (lanes : Lanes) (x y : Nat) : UInt64 :=
  lanes.get ⟨x % 5 + 5 * (y % 5), by omega⟩

def parity (lanes : Lanes) (x : Nat) : UInt64 :=
  lane lanes x 0 ^^^ lane lanes x 1 ^^^ lane lanes x 2 ^^^ lane lanes x 3 ^^^ lane lanes x 4

def theta (lanes : Lanes) : Lanes :=
  let parities : Vector UInt64 5 := Vector.ofFn fun x => parity lanes x
  let column (x : Nat) : UInt64 := parities.get ⟨x % 5, by omega⟩
  let mixed : Vector UInt64 5 :=
    Vector.ofFn fun x => column (x + 4) ^^^ rotateLeft (column (x + 1)) 1
  Vector.ofFn fun i => lanes[i] ^^^ mixed.get ⟨i.val % 5, by omega⟩

/-- Turns every lane and moves it to its new place. -/
def rhoPi (lanes : Lanes) : Lanes :=
  Vector.ofFn fun i =>
    let x := i.val % 5
    let y := i.val / 5
    let source := (x + 3 * y) % 5 + 5 * x
    rotateLeft (lanes.get ⟨source, by omega⟩) (rotations.get ⟨source, by omega⟩)

def chi (lanes : Lanes) : Lanes :=
  Vector.ofFn fun i =>
    let x := i.val % 5
    let y := i.val / 5
    lane lanes x y ^^^ (~~~(lane lanes (x + 1) y) &&& lane lanes (x + 2) y)

def round (lanes : Lanes) (constant : UInt64) : Lanes :=
  let mixed := chi (rhoPi (theta lanes))
  mixed.set 0 (mixed[0] ^^^ constant)

def permute (lanes : Lanes) : Lanes := roundConstants.foldl round lanes

/-- The bytes with the padding that makes their number a multiple of the rate. -/
def pad (bytes : Bytes) : Bytes :=
  let missing := rate - bytes.length % rate
  if missing = 1 then bytes ++ [0x81]
  else bytes ++ [0x01] ++ List.replicate (missing - 2) 0 ++ [0x80]

def absorb (lanes : Lanes) (block : Array UInt8) : Lanes :=
  permute <| Vector.ofFn fun i =>
    if i.val < 17 then
      let word : UInt64 := (List.range 8).foldr
        (fun k (acc : UInt64) => (acc <<< 8) ||| (block.getD (8 * i.val + k) 0).toUInt64) 0
      lanes[i] ^^^ word
    else lanes[i]

def absorbAll (lanes : Lanes) (bytes : Bytes) : Lanes :=
  match bytes with
  | [] => lanes
  | first :: rest =>
    absorbAll (absorb lanes (first :: rest.take (rate - 1)).toArray) (rest.drop (rate - 1))
  termination_by bytes.length
  decreasing_by simp only [List.length_drop, List.length_cons]; omega

def digest (bytes : Bytes) : Bytes :=
  let final := absorbAll (Vector.replicate 25 0) (pad bytes)
  (List.range 32).map fun k =>
    (final.get ⟨k / 8 % 25, by omega⟩ >>> (8 * (k % 8)).toUInt64).toUInt8

end Provenance.Keccak
