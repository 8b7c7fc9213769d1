import Provenance.Archive.Inflate
import Provenance.Bytes

/-!
Archives of files. The directory at the end of an archive says for each entry
where it begins and how it is kept.
-/

namespace Provenance.Archive

/-!
The check sum of archives: the remainder of the data as a polynomial over bits,
low bits first, with all bits of start and result inverted.
-/

def crcDivisor : UInt32 := 0xEDB88320

def crcShift (sum : UInt32) : UInt32 :=
  if sum &&& 1 = 1 then (sum >>> 1) ^^^ crcDivisor else sum >>> 1

def crcStep (sum : UInt32) (byte : UInt8) : UInt32 :=
  crcShift (crcShift (crcShift (crcShift (crcShift (crcShift (crcShift (crcShift
    (sum ^^^ byte.toUInt32))))))))

def crc (data : Bytes) : UInt32 := data.foldl crcStep 0xFFFFFFFF ^^^ 0xFFFFFFFF

/-- Why an entry cannot be had: the archive is at fault, or the data of an entry. -/
inductive Fault where
  | archive (text : String)
  | data (text : String)
  deriving DecidableEq, Repr

structure Entry where
  name : Bytes
  encrypted : Bool
  method : Nat
  sum : Nat
  packedSize : Nat
  size : Nat
  isLink : Bool
  place : Nat
  deriving DecidableEq, Repr

def slice? (bytes : Bytes) (place length : Nat) : Option Bytes :=
  let part := (bytes.drop place).take length
  if part.length = length then some part else none

def number? (bytes : Bytes) (place width : Nat) : Option Nat :=
  (slice? bytes place width).map Bytes.littleEndian

def endMark : Bytes := [0x50, 0x4B, 5, 6]

def directoryMark : Bytes := [0x50, 0x4B, 1, 2]

def headerMark : Bytes := [0x50, 0x4B, 3, 4]

def endSize : Nat := 22

def directorySize : Nat := 46

def headerSize : Nat := 30

def endPlace? (bytes : Bytes) : Option Nat :=
  ((List.range (bytes.length + 1 - endSize)).reverse).find? fun place =>
    endMark.isPrefixOf (bytes.drop place)

/-- Reads an entry of the directory at a place, and where the next one is. The
places of headers are counted from the start of the archive. -/
def entry? (bytes : Bytes) (start place : Nat) : Option (Entry × Nat) := do
  let record ← slice? bytes place directorySize
  if !directoryMark.isPrefixOf record then none
  else
    let field (place width : Nat) : Nat := (number? record place width).getD 0
    let nameSize := field 28 2
    let name ← slice? bytes (place + directorySize) nameSize
    let fromUnix := field 5 1 = 3
    some ({ name
            encrypted := (field 8 2).testBit 0
            method := field 10 2
            sum := field 16 4
            packedSize := field 20 4
            size := field 24 4
            isLink := fromUnix && (field 38 4 / 2 ^ 28 = 0o12)
            place := start + field 42 4 },
      place + directorySize + nameSize + field 30 2 + field 32 2)

def entries? (bytes : Bytes) (start : Nat) : Nat → Nat → Option (List Entry)
  | 0, _ => some []
  | count + 1, place => do
    let (entry, next) ← entry? bytes start place
    let rest ← entries? bytes start count next
    some (entry :: rest)

/-- The directory of an archive, which stands right before the end record. What
is in front of the archive does not count. -/
def directory? (bytes : Bytes) : Option (List Entry) := do
  let place ← endPlace? bytes
  let count ← number? bytes (place + 10) 2
  let size ← number? bytes (place + 12) 4
  let offset ← number? bytes (place + 16) 4
  if place < size + offset then none
  else entries? bytes (place - (size + offset)) count (place - size)

def packed (bytes : Bytes) (entry : Entry) : Except Fault Bytes :=
  if entry.encrypted then .error (.archive "Password required to decrypt file")
  else if entry.method ≠ 0 ∧ entry.method ≠ 8 then
    .error (.archive "Compression method not supported")
  else
    match slice? bytes entry.place headerSize with
    | none => .error (.archive "Invalid local file header")
    | some header =>
      if !headerMark.isPrefixOf header then .error (.archive "Invalid local file header")
      else
        let names := (number? header 26 2).getD 0 + (number? header 28 2).getD 0
        .ok ((bytes.drop (entry.place + headerSize + names)).take entry.packedSize)

def unpack (entry : Entry) (data : Bytes) : Except Fault Bytes :=
  let content := if entry.method = 0 then some data else inflate data
  match content with
  | none => .error (.data "corrupt deflate stream")
  | some content =>
    if (crc content).toNat = entry.sum then .ok content else .error (.data "Invalid checksum")

def Entry.isExecutable (entry : Entry) : Bool :=
  !entry.isLink && (Bytes.ofText ".exe").isSuffixOf entry.name

def firstExecutable (bytes : Bytes) : List Entry → Except Fault Bytes
  | [] => .error (.archive "specified file not found in archive")
  | entry :: rest => do
    let data ← packed bytes entry
    if entry.isExecutable then unpack entry data else firstExecutable bytes rest

def program (bytes : Bytes) : Except Fault Bytes :=
  match directory? bytes with
  | none => .error (.archive "invalid Zip archive")
  | some entries => firstExecutable bytes entries

end Provenance.Archive
