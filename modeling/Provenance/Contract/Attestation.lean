import Provenance.Code.Comparison
import Provenance.Compiler.Output
import Provenance.Contract.Basic

/-!
Verifying a deployed contract: the compiler's contract of its name is found,
its code decoded, the live code fetched, and the two compared.
-/

namespace Provenance

inductive VerificationFault where
  | contractNotFound (name : String)
  | invalidBytecode (cause : Hex.Fault)
  | node (text : String)
  | noCode (id : ContractIdentity)
  deriving DecidableEq, Repr

def VerificationFault.message : VerificationFault → String
  | .contractNotFound name => "contract " ++ name ++ " not found in compiler output"
  | .invalidBytecode cause => "invalid compiled bytecode: " ++ cause.message
  | .node text => "node rpc request failed: " ++ text
  | .noCode id =>
    "no code at " ++ id.text ++ "; the contract was likely self-destructed"

structure Candidate where
  file : String
  name : String
  contract : CompiledContract
  code : Bytes

/-- Finds the contract of the given name, in the given file if there is one. -/
def Candidate.find (contracts : Contracts) (name : String) (path : Option String) :
    Except VerificationFault Candidate :=
  match contracts.find? name path with
  | none => .error (.contractNotFound name)
  | some (file, contract) =>
    match Hex.decode contract.deployedBytecode with
    | .error cause => .error (.invalidBytecode cause)
    | .ok code => .ok ⟨file, name, contract, code⟩

structure Verdict where
  comparison : Code.Comparison
  liveCode : Bytes
  candidate : Candidate

/-- Compares a candidate with the code at an address; no code means that there
is no contract any more. -/
def Candidate.judge (candidate : Candidate) (id : ContractIdentity) (live : Bytes) :
    Except VerificationFault Verdict :=
  if live.isEmpty then .error (.noCode id)
  else .ok ⟨Code.compare live candidate.code, live, candidate⟩

/-- Verifies a contract, given what the node answers. -/
def verify (id : ContractIdentity) (contracts : Contracts) (name : String) (path : Option String)
    (live : Except String Bytes) : Except VerificationFault Verdict := do
  let candidate ← Candidate.find contracts name path
  let code ← live.mapError .node
  candidate.judge id code

/-!
The artifact kept for a verified contract: the compiler, fingerprints of the
live code, the metadata records in it, and what the compiler said of the
contract.
-/

structure Attestation where
  compiler : String
  fingerprints : Code.Fingerprints
  records : List Metadata
  abi : Json
  deployedBytecode : String
  bytecode : String

namespace Attestation

def ofVerdict (compiler : String) (verdict : Verdict) : Attestation where
  compiler := compiler
  fingerprints := Code.fingerprints verdict.liveCode
  records := Code.records verdict.liveCode
  abi := verdict.candidate.contract.abi
  deployedBytecode := verdict.candidate.contract.deployedBytecode
  bytecode := verdict.candidate.contract.bytecode

/-- A record with the fields it has; the experimental mark only when it is set. -/
def recordJson (record : Metadata) : Json :=
  .object <| [
    ("ipfs", record.ipfs.map Json.string),
    ("bzzr0", record.bzzr0.map Json.string),
    ("bzzr1", record.bzzr1.map Json.string),
    ("solc", record.solc.map fun version => .string version.text),
    ("experimental", if record.experimental then some (.bool true) else none)].filterMap
      fun (name, value) => value.map fun v => (name, v)

def toJson (a : Attestation) : Json :=
  .object [
    ("compiler", .string a.compiler),
    ("opcodeHash", .string a.fingerprints.opcode),
    ("metalessHash", .string a.fingerprints.metaless),
    ("runtimeHash", .string a.fingerprints.runtime),
    ("encodedMetadata", .array (a.records.map recordJson)),
    ("abi", a.abi),
    ("deployedBytecode", .object [("object", .string a.deployedBytecode)]),
    ("bytecode", .object [("object", .string a.bytecode)])]

def fileText (a : Attestation) : String := a.toJson.indented ++ "\n"

end Attestation

end Provenance
