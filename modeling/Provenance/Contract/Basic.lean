import Provenance.Json.Reader
import Provenance.Json.Shape

/-!
The key of a deployed contract: the chain it lives on and its address there.
-/

namespace Provenance

structure ContractIdentity where
  chain : Nat
  address : String
  deriving DecidableEq, Repr

namespace ContractIdentity

def text (id : ContractIdentity) : String := toString id.chain ++ ":" ++ id.address

/-- Identities are ordered by chain, then by address. -/
def before (a b : ContractIdentity) : Bool :=
  a.chain < b.chain || (a.chain = b.chain && a.address < b.address)

/-- Puts an identity into a sorted list, unless it is there. -/
def insert (id : ContractIdentity) : List ContractIdentity → List ContractIdentity
  | [] => [id]
  | other :: rest =>
    if id.before other then id :: other :: rest
    else if id = other then other :: rest
    else other :: insert id rest

def sortedSet (ids : List ContractIdentity) : List ContractIdentity :=
  ids.foldl (fun acc id => insert id acc) []

def sorted (ids : List ContractIdentity) : List ContractIdentity :=
  ids.mergeSort fun a b => !b.before a

open Shape

def decode : Decoder ContractIdentity :=
  record "ContractIdentity" false
    (ContractIdentity.mk <$> Fields.required "chainId" (unsigned "u64")
      <*> Fields.required "address" string)

end ContractIdentity

/-!
What is known about a deployed contract: its name, the compiler that made it,
the file it is in if that is known, and whether to leave it alone.
-/

structure ContractConfig where
  name : String
  compiler : String
  sourcePath : Option String
  skip : Bool
  deriving DecidableEq, Repr

namespace ContractConfig

open Shape

def decode : Decoder ContractConfig :=
  record "ContractConfig" false
    (ContractConfig.mk <$> Fields.required "contractName" string
      <*> Fields.required "compiler" string
      <*> Fields.defaulted "sourcePath" (optional string) none
      <*> Fields.defaulted "skip" boolean false)

def interest : Json.Interest :=
  .members [("contractName", .whole), ("compiler", .whole), ("sourcePath", .whole),
    ("skip", .whole)]

end ContractConfig

end Provenance
