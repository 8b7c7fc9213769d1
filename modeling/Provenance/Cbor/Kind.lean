import Provenance.Bytes

/-!
The kinds of data item a first byte announces. For a negative integer the kind
also depends on the byte that follows, since the sign takes one bit of range.
-/

namespace Provenance.Cbor

inductive Kind where
  | u8 | u16 | u32 | u64
  | i8 | i16 | i32 | i64 | int
  | bytes | openBytes
  | text | openText
  | array | openArray
  | map | openMap
  | tag
  | simple | bool | null | undefined
  | f16 | f32 | f64
  | stop
  | unassigned (head : UInt8)
  deriving DecidableEq, Repr

namespace Kind

/-- The two lower-case hex digits of a byte behind `0x`. -/
def hexByte (head : UInt8) : String :=
  let digits := Nat.toDigits 16 head.toNat
  "0x" ++ String.ofList (List.replicate (2 - digits.length) '0' ++ digits)

def name : Kind → String
  | .u8 => "u8"
  | .u16 => "u16"
  | .u32 => "u32"
  | .u64 => "u64"
  | .i8 => "i8"
  | .i16 => "i16"
  | .i32 => "i32"
  | .i64 => "i64"
  | .int => "int"
  | .bytes => "bytes"
  | .openBytes => "indefinite bytes"
  | .text => "string"
  | .openText => "indefinite string"
  | .array => "array"
  | .openArray => "indefinite array"
  | .map => "map"
  | .openMap => "indefinite map"
  | .tag => "tag"
  | .simple => "simple"
  | .bool => "bool"
  | .null => "null"
  | .undefined => "undefined"
  | .f16 => "f16"
  | .f32 => "f32"
  | .f64 => "f64"
  | .stop => "break"
  | .unassigned head => hexByte head

end Kind

/-- Why reading a data item failed. -/
inductive Fault where
  | endOfInput
  | invalidUtf8
  | unexpected (kind : Kind)
  deriving DecidableEq, Repr

def Fault.message : Fault → String
  | .endOfInput => "end of input bytes"
  | .invalidUtf8 => "invalid utf-8"
  | .unexpected kind => "unexpected type " ++ kind.name

/-- A negative integer fits the width of its head when the byte behind the head
leaves the top bit free; otherwise it needs the next wider kind. -/
def negativeKind (following : Bytes) (fits wider : Kind) : Except Fault Kind :=
  match following with
  | [] => .error .endOfInput
  | byte :: _ => .ok (if byte.toNat < 0x80 then fits else wider)

/-- The kind announced by a first byte in front of the given bytes. -/
def kindOf (head : UInt8) (following : Bytes) : Except Fault Kind :=
  let n := head.toNat
  if n ≤ 0x18 then .ok .u8
  else if n = 0x19 then .ok .u16
  else if n = 0x1A then .ok .u32
  else if n = 0x1B then .ok .u64
  else if 0x20 ≤ n ∧ n ≤ 0x37 then .ok .i8
  else if n = 0x38 then negativeKind following .i8 .i16
  else if n = 0x39 then negativeKind following .i16 .i32
  else if n = 0x3A then negativeKind following .i32 .i64
  else if n = 0x3B then negativeKind following .i64 .int
  else if 0x40 ≤ n ∧ n ≤ 0x5B then .ok .bytes
  else if n = 0x5F then .ok .openBytes
  else if 0x60 ≤ n ∧ n ≤ 0x7B then .ok .text
  else if n = 0x7F then .ok .openText
  else if 0x80 ≤ n ∧ n ≤ 0x9B then .ok .array
  else if n = 0x9F then .ok .openArray
  else if 0xA0 ≤ n ∧ n ≤ 0xBB then .ok .map
  else if n = 0xBF then .ok .openMap
  else if 0xC0 ≤ n ∧ n ≤ 0xDB then .ok .tag
  else if 0xE0 ≤ n ∧ n ≤ 0xF3 then .ok .simple
  else if n = 0xF4 ∨ n = 0xF5 then .ok .bool
  else if n = 0xF6 then .ok .null
  else if n = 0xF7 then .ok .undefined
  else if n = 0xF8 then .ok .simple
  else if n = 0xF9 then .ok .f16
  else if n = 0xFA then .ok .f32
  else if n = 0xFB then .ok .f64
  else if n = 0xFF then .ok .stop
  else .ok (.unassigned head)

def nextKind : Bytes → Except Fault Kind
  | [] => .error .endOfInput
  | head :: rest => kindOf head rest

end Provenance.Cbor
