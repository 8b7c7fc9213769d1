import Provenance.Contract.Attestation
import Provenance.Contract.Basic
import Provenance.Files.Tree
import Provenance.Json.Reader
import Provenance.Number.Unsigned

/-!
Contracts in a tree of files. Under the root there is a directory for each
chain, and in it one for each contract, with its configuration, the compiler's
input and, once it is verified, its metadata.
-/

namespace Provenance

structure ContractStore where
  root : String
  deriving DecidableEq, Repr

inductive StoreAction where
  | reading
  | parsing
  | listing
  | checking
  | writing
  deriving DecidableEq, Repr

def StoreAction.text : StoreAction → String
  | .reading => "reading"
  | .parsing => "parsing"
  | .listing => "listing"
  | .checking => "checking"
  | .writing => "writing"

structure StoreFault where
  action : StoreAction
  path : String
  reason : String
  deriving DecidableEq, Repr

namespace StoreFault

def headline (f : StoreFault) : String := f.action.text ++ " " ++ f.path

def message (f : StoreFault) : String := f.headline ++ ": " ++ f.reason

end StoreFault

namespace ContractStore

def configFile : String := "config.json"

def inputFile : String := "input.json"

def metadataFile : String := "metadata.json"

def contractPath (s : ContractStore) (id : ContractIdentity) : String :=
  Files.joinPath (Files.joinPath s.root (toString id.chain)) id.address

def filePath (s : ContractStore) (id : ContractIdentity) (name : String) : String :=
  Files.joinPath (s.contractPath id) name

def report {α : Type} (action : StoreAction) (path : String) (result : Except Files.Fault α) :
    Except StoreFault α :=
  result.mapError fun cause => ⟨action, path, cause.message⟩

def readJson {α : Type} (t : Files.Tree) (path : String) (interest : Json.Interest)
    (decode : Shape.Decoder α) : Except StoreFault α := do
  let content ← report .reading path (t.read path)
  match Json.readDocument interest content with
  | .error .unfinished => .error ⟨.parsing, path, "EOF while parsing a value"⟩
  | .error .malformed => .error ⟨.parsing, path, "expected value"⟩
  | .ok json => (decode json).mapError fun m => ⟨.parsing, path, m.cause.message⟩

/-- The directories in a directory, in order. The names in a tree are texts, so there is
none that would have to be left out for its name. -/
def subdirectories (t : Files.Tree) (path : String) : Except StoreFault (List String) := do
  let children ← report .listing path (t.list path)
  let names := (children.filter fun child => child.2 = .directory).map Prod.fst
  .ok (names.mergeSort fun a b => !(b < a))

def listChain (s : ContractStore) (t : Files.Tree) (chain : Nat) (directory : String) :
    Except StoreFault (List ContractIdentity) := do
  let addresses ← subdirectories t (Files.joinPath s.root directory)
  .ok (addresses.map fun address => ⟨chain, address⟩)

def listChains (s : ContractStore) (t : Files.Tree) :
    List String → Except StoreFault (List ContractIdentity)
  | [] => .ok []
  | directory :: rest =>
    match Unsigned.parse directory.toList with
    | .error _ => listChains s t rest
    | .ok chain => do
      let contracts ← s.listChain t chain directory
      let others ← listChains s t rest
      .ok (contracts ++ others)

/-- All contracts in order. Directories that are not named by a number are left
out. -/
def list (s : ContractStore) (t : Files.Tree) : Except StoreFault (List ContractIdentity) := do
  let directories ← subdirectories t s.root
  let contracts ← s.listChains t directories
  .ok (ContractIdentity.sorted contracts)

def config (s : ContractStore) (t : Files.Tree) (id : ContractIdentity) :
    Except StoreFault ContractConfig :=
  readJson t (s.filePath id configFile) ContractConfig.interest ContractConfig.decode

def input (s : ContractStore) (t : Files.Tree) (id : ContractIdentity) : Except StoreFault Json :=
  readJson t (s.filePath id inputFile) .whole fun json => .ok json.sorted

def hasMetadata (s : ContractStore) (t : Files.Tree) (id : ContractIdentity) :
    Except StoreFault Bool :=
  let path := s.filePath id metadataFile
  report .checking path (t.exists? path)

def saveMetadata (s : ContractStore) (t : Files.Tree) (id : ContractIdentity)
    (attestation : Attestation) : Except StoreFault Files.Tree :=
  let path := s.filePath id metadataFile
  report .writing path (t.write path (Bytes.ofText attestation.fileText))

end ContractStore

end Provenance
