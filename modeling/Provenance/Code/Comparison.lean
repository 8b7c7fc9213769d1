import Provenance.Bytes
import Provenance.Code.Trailer
import Provenance.Digest.Keccak
import Provenance.Hex

/-!
Code as a stream of instructions. Only the push instructions carry an operand,
of one to thirty-two bytes; the last instruction's may be cut short by the end
of the code.
-/

namespace Provenance.Code

def isPush (opcode : UInt8) : Bool := 0x60 ≤ opcode.toNat && opcode.toNat ≤ 0x7F

def operandWidth (opcode : UInt8) : Nat :=
  if isPush opcode then opcode.toNat - 0x5F else 0

structure Instruction where
  offset : Nat
  opcode : UInt8
  operand : Bytes
  deriving DecidableEq, Repr

namespace Instruction

def bytes (i : Instruction) : Bytes := i.opcode :: i.operand

/-- Moves an instruction further into the code. -/
def shift (n : Nat) (i : Instruction) : Instruction := { i with offset := i.offset + n }

end Instruction

/-- The instructions of code whose first byte stands at `offset`. -/
def decodeFrom (offset : Nat) (code : Bytes) : List Instruction :=
  match code with
  | [] => []
  | opcode :: rest =>
    let operand := rest.take (operandWidth opcode)
    ⟨offset, opcode, operand⟩ ::
      decodeFrom (offset + 1 + operand.length) (rest.drop (operandWidth opcode))
  termination_by code.length
  decreasing_by simp only [List.length_drop, List.length_cons]; omega

def decode (code : Bytes) : List Instruction := decodeFrom 0 code

def opcodes (code : Bytes) : Bytes := (decode code).map Instruction.opcode

def isFilledIn (live compiled : Bytes) : Bool :=
  compiled.all (· = 0) && live.any (· ≠ 0)

def Instruction.agrees (live compiled : Instruction) : Bool :=
  live.opcode = compiled.opcode && live.operand.length = compiled.operand.length &&
    (live.operand = compiled.operand || isFilledIn live.operand compiled.operand)

def streamsAgree : List Instruction → List Instruction → Bool
  | [], [] => true
  | live :: lives, compiled :: compileds => live.agrees compiled && streamsAgree lives compileds
  | _, _ => false

/-- Whether live code is the compiled code up to operands that the compiler
left zero: immutable variables get their values on deployment. -/
def instructionsAgree (live compiled : Bytes) : Bool :=
  streamsAgree (decode live) (decode compiled)

/-!
How live code compares with compiled code, on three levels of tolerance, and
the fingerprints kept of live code.
-/

structure Comparison where
  direct : Bool
  runtime : Bool
  opcode : Bool
  deriving DecidableEq, Repr

/-- Compares live code with compiled code. -/
def compare (live compiled : Bytes) : Comparison :=
  let strippedLive := strip live
  let strippedCompiled := strip compiled
  { direct := live = compiled
    runtime := strippedLive = strippedCompiled
    opcode := instructionsAgree strippedLive strippedCompiled }

/-- Code counts as verified on either tolerant level. -/
def Comparison.isVerified (c : Comparison) : Bool := c.runtime || c.opcode

/-- Fingerprints of code: of all of it, of its opcodes without metadata, and of
its bytes without metadata. -/
structure Fingerprints where
  runtime : String
  opcode : String
  metaless : String
  deriving DecidableEq, Repr

def fingerprint (bytes : Bytes) : String := Hex.marked (Keccak.digest bytes)

def fingerprints (code : Bytes) : Fingerprints :=
  let stripped := strip code
  ⟨fingerprint code, fingerprint (opcodes stripped), fingerprint stripped⟩

end Provenance.Code
