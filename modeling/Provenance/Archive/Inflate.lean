import Provenance.Bytes
import Provenance.Number.Power

/-!
Expanding deflated data. The data is a sequence of bits, the low bit of each
byte first. Blocks of it hold bytes as they are, or symbols of a prefix code:
single bytes, ends of blocks, and copies of what came before.
-/

namespace Provenance.Archive

abbrev Bits := List Bool

def bitsOf (bytes : Bytes) : Bits :=
  bytes.flatMap fun byte => (List.range 8).map fun place => byte.toNat.testBit place

/-- Takes a number of so many bits, the low one first. -/
def takeNumber : Nat → Bits → Option (Nat × Bits)
  | 0, bits => some (0, bits)
  | _ + 1, [] => none
  | width + 1, bit :: bits => do
    let (n, rest) ← takeNumber width bits
    some (bit.toNat + 2 * n, rest)

/-- A prefix code: the symbols with codes of one bit, of two bits, and so on. -/
abbrev PrefixCode := List (List Nat)

namespace PrefixCode

def maxLength : Nat := 15

/-- The code in which each symbol, from zero onward, has a code of the given
length; those of length zero have none. -/
def ofLengths (lengths : List Nat) : PrefixCode :=
  (List.range maxLength).map fun length =>
    lengths.zipIdx.filterMap fun (other, symbol) =>
      if other = length + 1 then some symbol else none

/-- Whether there are no more codes of any length than can be told apart. -/
def isSound (code : PrefixCode) : Bool :=
  let used := (code.zipIdx.map fun (symbols, length) =>
    symbols.length * 2 ^ (maxLength - (length + 1))).foldl (· + ·) 0
  used ≤ 2 ^ maxLength

/-- Reads a symbol. Codes of one length are consecutive numbers, the first bit
the highest, and come after all shorter ones. -/
def read (value first : Nat) : PrefixCode → Bits → Option (Nat × Bits)
  | symbols :: longer, bit :: bits =>
    let value := 2 * value + bit.toNat
    let first := 2 * first
    match symbols[value - first]? with
    | some symbol => some (symbol, bits)
    | none => read value (first + symbols.length) longer bits
  | _, _ => none

end PrefixCode

/-- The codes of a block: for bytes, ends and lengths of copies, and for their
distances. -/
structure BlockCodes where
  literals : PrefixCode
  distances : PrefixCode

def BlockCodes.fixed : BlockCodes where
  literals := .ofLengths (List.replicate 144 8 ++ List.replicate 112 9 ++
    List.replicate 24 7 ++ List.replicate 8 8)
  distances := .ofLengths (List.replicate 30 5)

def copyLengths : List (Nat × Nat) := [
  (3, 0), (4, 0), (5, 0), (6, 0), (7, 0), (8, 0), (9, 0), (10, 0), (11, 1), (13, 1), (15, 1),
  (17, 1), (19, 2), (23, 2), (27, 2), (31, 2), (35, 3), (43, 3), (51, 3), (59, 3), (67, 4),
  (83, 4), (99, 4), (115, 4), (131, 5), (163, 5), (195, 5), (227, 5), (258, 0)]

/-- The smallest distance of each symbol for a distance and how many bits follow. -/
def copyDistances : List (Nat × Nat) := [
  (1, 0), (2, 0), (3, 0), (4, 0), (5, 1), (7, 1), (9, 2), (13, 2), (17, 3), (25, 3), (33, 4),
  (49, 4), (65, 5), (97, 5), (129, 6), (193, 6), (257, 7), (385, 7), (513, 8), (769, 8),
  (1025, 9), (1537, 9), (2049, 10), (3073, 10), (4097, 11), (6145, 11), (8193, 12),
  (12289, 12), (16385, 13), (24577, 13)]

/-- A number that a symbol begins and further bits complete. -/
def extended (table : List (Nat × Nat)) (symbol : Nat) (bits : Bits) : Option (Nat × Bits) := do
  let (least, width) ← table[symbol]?
  let (more, bits) ← takeNumber width bits
  some (least + more, bits)

/-- Repeats what stands at a distance before the end. The output is given with
its last byte first. -/
def copyBack (distance : Nat) : Nat → List UInt8 → Option (List UInt8)
  | 0, out => some out
  | count + 1, out => do
    let byte ← out[distance - 1]?
    copyBack distance count (byte :: out)

def readSymbols (codes : BlockCodes) : Nat → Bits → List UInt8 → Option (List UInt8 × Bits)
  | 0, _, _ => none
  | fuel + 1, bits, out => do
    let (symbol, bits) ← codes.literals.read 0 0 bits
    if symbol < 256 then readSymbols codes fuel bits (UInt8.ofNat symbol :: out)
    else if symbol = 256 then some (out, bits)
    else
      let (length, bits) ← extended copyLengths (symbol - 257) bits
      let (symbol, bits) ← codes.distances.read 0 0 bits
      let (distance, bits) ← extended copyDistances symbol bits
      readSymbols codes fuel bits (← copyBack distance length out)

def lengthOrder : List Nat := [16, 17, 18, 0, 8, 7, 9, 6, 10, 5, 11, 4, 12, 3, 13, 2, 14, 1, 15]

def takeNumbers (width : Nat) : Nat → Bits → Option (List Nat × Bits)
  | 0, bits => some ([], bits)
  | count + 1, bits => do
    let (n, bits) ← takeNumber width bits
    let (rest, bits) ← takeNumbers width count bits
    some (n :: rest, bits)

/-- Reads lengths of codes until there are enough. Runs of a length are given by
symbols of their own. -/
def readLengths (code : PrefixCode) (wanted : Nat) :
    Nat → Bits → List Nat → Option (List Nat × Bits)
  | 0, _, _ => none
  | fuel + 1, bits, lengths =>
    if lengths.length = wanted then some (lengths, bits)
    else if wanted < lengths.length then none
    else do
      let (symbol, bits) ← code.read 0 0 bits
      let run (length least width : Nat) := do
        let (more, bits) ← takeNumber width bits
        readLengths code wanted fuel bits (lengths ++ List.replicate (least + more) length)
      match symbol with
      | 16 => run (← lengths.getLast?) 3 2
      | 17 => run 0 3 3
      | 18 => run 0 11 7
      | length => readLengths code wanted fuel bits (lengths ++ [length])

def readCodes (bits : Bits) : Option (BlockCodes × Bits) := do
  let (literals, bits) ← takeNumber 5 bits
  let (distances, bits) ← takeNumber 5 bits
  let (count, bits) ← takeNumber 4 bits
  let (given, bits) ← takeNumbers 3 (count + 4) bits
  let lengths := (List.range 19).map fun symbol =>
    ((lengthOrder.zip given).lookup symbol).getD 0
  let code := PrefixCode.ofLengths lengths
  let literals := literals + 257
  let (lengths, bits) ← readLengths code (literals + distances + 1) (bits.length + 1) bits []
  let codes : BlockCodes :=
    ⟨.ofLengths (lengths.take literals), .ofLengths (lengths.drop literals)⟩
  if code.isSound && codes.literals.isSound && codes.distances.isSound then some (codes, bits)
  else none

/-- Reads a block of bytes as they are, which begins with a whole byte. -/
def readStored (bits : Bits) (out : List UInt8) : Option (List UInt8 × Bits) := do
  let (length, bits) ← takeNumber 16 (bits.drop (bits.length % 8))
  let (check, bits) ← takeNumber 16 bits
  if length + check ≠ 0xFFFF then none
  else
    let (bytes, bits) ← takeNumbers 8 length bits
    some ((bytes.map UInt8.ofNat).reverse ++ out, bits)

def readBlocks : Nat → Bits → List UInt8 → Option (List UInt8)
  | 0, _, _ => none
  | fuel + 1, bits, out => do
    let (last, bits) ← takeNumber 1 bits
    let (kind, bits) ← takeNumber 2 bits
    let (out, bits) ← match kind with
      | 0 => readStored bits out
      | 1 => readSymbols .fixed (bits.length + 1) bits out
      | 2 => do
        let (codes, bits) ← readCodes bits
        readSymbols codes (bits.length + 1) bits out
      | _ => none
    if last = 1 then some out else readBlocks fuel bits out

def inflate (data : Bytes) : Option Bytes :=
  let bits := bitsOf data
  (readBlocks (bits.length + 1) bits []).map List.reverse

end Provenance.Archive
