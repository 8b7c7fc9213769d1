import Provenance.Json.Shape
import Provenance.Json.Writer
import Provenance.Text.Basic

/-!
What a compiler answers, reduced to what verification needs: contracts by file
and name, sources, and errors. An answer with a real error, or with errors and
no contract, is a failed compilation.
-/

namespace Provenance

structure CompiledContract where
  abi : Json
  bytecode : String
  deployedBytecode : String

/-- Contracts by file and name, both in increasing order. -/
abbrev Contracts := List (String × List (String × CompiledContract))

namespace CompiledContract

open Shape

def decodeObject : Decoder String :=
  record "BytecodeObject" false (Fields.defaulted "object" string "")

/-- The codes of a contract: for its creation and as deployed. -/
def decodeEvm : Decoder (String × String) :=
  record "Evm" false
    (Prod.mk <$> Fields.defaulted "bytecode" decodeObject ""
      <*> Fields.defaulted "deployedBytecode" decodeObject "")

def decode : Decoder CompiledContract :=
  record "CompiledContract" false
    ((fun abi (bytecode, deployed) => ⟨abi, bytecode, deployed⟩)
      <$> Fields.defaulted "abi" any .null
      <*> Fields.defaulted "evm" decodeEvm ("", ""))

def toJson (contract : CompiledContract) : Json :=
  let object (code : String) : Json := .object [("object", .string code)]
  .object [("abi", contract.abi),
    ("evm", .object [("bytecode", object contract.bytecode),
      ("deployedBytecode", object contract.deployedBytecode)])]

end CompiledContract

namespace Contracts

def decode : Shape.Decoder Contracts := Shape.table (Shape.table CompiledContract.decode)

/-- The first file, in order, that has a contract of the given name, unless a
file is asked for. -/
def find? (contracts : Contracts) (name : String) (path : Option String) :
    Option (String × CompiledContract) :=
  (contracts.filter fun (file, _) => path.all (· = file)).findSome? fun (file, inFile) =>
    (inFile.find? fun entry => entry.1 = name).map fun entry => (file, entry.2)

def toJson (contracts : Contracts) : Json :=
  .object (contracts.map fun (file, inFile) =>
    (file, .object (inFile.map fun (name, contract) => (name, contract.toJson))))

end Contracts

inductive CompilerOutput where
  | success (contracts : Contracts) (sources : List (String × Json))
  | failure (errors : List Json)

namespace CompilerOutput

open Shape

def decodeParts : Decoder (Contracts × List (String × Json) × List Json) :=
  record "RawOutput" false
    ((fun contracts sources errors => (contracts, sources, errors))
      <$> Fields.defaulted "contracts" Contracts.decode []
      <*> Fields.defaulted "sources" (table any) []
      <*> Fields.defaulted "errors" (list any) [])

def isError (error : Json) : Bool := (error.member? "severity").bind Json.string? = some "error"

/-- Reads a compiler's answer. -/
def decode : Decoder CompilerOutput := fun json => do
  let (contracts, sources, errors) ← decodeParts json
  if errors.any isError || (contracts.isEmpty && !errors.isEmpty) then .ok (.failure errors)
  else .ok (.success contracts sources)

/-- The text of one error: its formatted message, else its message, else all of it. -/
def errorText (error : Json) : String :=
  match ((error.member? "formattedMessage").or (error.member? "message")).bind Json.string? with
  | some text => Cut.trim text
  | none => error.compact

def errorsText (errors : List Json) : String := "; ".intercalate (errors.map errorText)

end CompilerOutput

end Provenance
