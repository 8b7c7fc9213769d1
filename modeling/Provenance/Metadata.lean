import Provenance.Cbor.Skip
import Provenance.Hex
import Provenance.Text.Base58

/-!
The metadata record that a Solidity compiler appends to the code it emits: a
CBOR map of at most eight entries with the hash of the compiler's own metadata
file and the version of the compiler. Unknown entries are passed over. A record
is read from the front of a byte string, and reading reports its size.
-/

namespace Provenance

/-- The version of the compiler: three bytes for a release, else a text. -/
inductive SolcVersion where
  | release (major minor patch : UInt8)
  | prerelease (text : String)
  deriving DecidableEq, Repr

namespace SolcVersion

def text : SolcVersion → String
  | .release major minor patch =>
    toString major.toNat ++ "." ++ toString minor.toNat ++ "." ++ toString patch.toNat
  | .prerelease text => text

end SolcVersion

/-- A decoded record, its hashes in the form in which they are looked up. -/
structure Metadata where
  ipfs : Option String := none
  bzzr0 : Option String := none
  bzzr1 : Option String := none
  solc : Option SolcVersion := none
  experimental : Bool := false
  deriving DecidableEq, Repr

namespace Metadata

/-- The largest number of entries a record may have. -/
def maxEntries : Nat := 8

inductive Fault where
  | cbor (cause : Cbor.Fault)
  | notAMap (found : Cbor.Kind)
  | badCount (count : Nat)
  | wrongKind (key : String) (expected found : Cbor.Kind)
  | wrongHashSize (key : String) (expected found : Nat)
  | badVersion (bytes : Bytes)
  | duplicateKey (key : String)
  | noKnownKeys
  deriving DecidableEq, Repr

def Fault.message : Fault → String
  | .cbor cause => "cbor decoding failed: " ++ cause.message
  | .notAMap found =>
    "invalid metadata type; expected \"map\", found \"" ++ found.name ++ "\""
  | .badCount count => "invalid metadata map size: " ++ toString count
  | .wrongKind key expected found =>
    "invalid " ++ key ++ " type; expected \"" ++ expected.name ++ "\", found=\"" ++
      found.name ++ "\""
  | .wrongHashSize key expected found =>
    "invalid " ++ key ++ " size; expected=" ++ toString expected ++ ", found=" ++ toString found
  | .badVersion bytes => "invalid solc version bytes: " ++ Hex.encode bytes
  | .duplicateKey key => "duplicated key: " ++ key
  | .noKnownKeys => "no known metadata keys found"

/-- A reader of record parts returns what it read and the bytes behind it. -/
abbrev Reader (α : Type) := Bytes → Except Fault (α × Bytes)

/-- A reader of a data item, as a reader of a record part. -/
def item {α : Type} (read : Bytes → Except Cbor.Fault α) (bytes : Bytes) : Except Fault α :=
  (read bytes).mapError .cbor

def expectKind (key : String) (expected : Cbor.Kind) (bytes : Bytes) : Except Fault Unit := do
  let found ← item Cbor.nextKind bytes
  if found = expected then .ok () else .error (.wrongKind key expected found)

def hash (key : String) (size : Nat) : Reader Bytes := fun bytes => do
  expectKind key .bytes bytes
  let (content, rest) ← item Cbor.byteString bytes
  if content.length = size then .ok (content, rest)
  else .error (.wrongHashSize key size content.length)

/-- The compiler's version in either encoding. -/
def version : Reader SolcVersion := fun bytes => do
  match ← item Cbor.nextKind bytes with
  | .bytes =>
    let (content, rest) ← item Cbor.byteString bytes
    match content with
    | [major, minor, patch] => .ok (.release major minor patch, rest)
    | other => .error (.badVersion other)
  | .text =>
    let (text, rest) ← item Cbor.textString bytes
    .ok (.prerelease text, rest)
  | found => .error (.wrongKind "solc" .bytes found)

def setOnce {α : Type} (key : String) (slot : Option α) (value : α) : Except Fault (Option α) :=
  match slot with
  | none => .ok (some value)
  | some _ => .error (.duplicateKey key)

def ipfsPath (hash : Bytes) : String := "/ipfs/" ++ Base58.encode hash

def swarmPath (key : String) (hash : Bytes) : String := "/swarm/" ++ key ++ "/" ++ Hex.encode hash

/-- The value of the entry with the given key, put into the record. A value is
read before its key is found to be repeated. -/
def value (record : Metadata) (key : String) : Reader Metadata := fun bytes =>
  match key with
  | "ipfs" => do
    let (content, rest) ← hash "ipfs" 34 bytes
    let slot ← setOnce key record.ipfs (ipfsPath content)
    .ok ({ record with ipfs := slot }, rest)
  | "bzzr0" => do
    let (content, rest) ← hash "bzzr0" 32 bytes
    let slot ← setOnce key record.bzzr0 (swarmPath "bzzr0" content)
    .ok ({ record with bzzr0 := slot }, rest)
  | "bzzr1" => do
    let (content, rest) ← hash "bzzr1" 32 bytes
    let slot ← setOnce key record.bzzr1 (swarmPath "bzzr1" content)
    .ok ({ record with bzzr1 := slot }, rest)
  | "solc" => do
    let (content, rest) ← version bytes
    let slot ← setOnce key record.solc content
    .ok ({ record with solc := slot }, rest)
  | "experimental" => do
    expectKind "experimental" .bool bytes
    let (flag, rest) ← item Cbor.bool bytes
    .ok ({ record with experimental := flag }, rest)
  | _ => do
    let rest ← item Cbor.skip bytes
    .ok (record, rest)

/-- One entry of the map: a text key and its value. -/
def entry (record : Metadata) : Reader Metadata := fun bytes => do
  expectKind "key" .text bytes
  let (key, rest) ← item Cbor.textString bytes
  value record key rest

def entries (record : Metadata) : Nat → Reader Metadata
  | 0, bytes => .ok (record, bytes)
  | count + 1, bytes => do
    let (record, rest) ← entry record bytes
    entries record count rest

/-- The number of entries a record announces. -/
def count : Reader Nat := fun bytes => do
  match ← item Cbor.nextKind bytes with
  | .map =>
    match ← item Cbor.mapHead bytes with
    | (some n, rest) => if 0 < n ∧ n ≤ maxEntries then .ok (n, rest) else .error (.badCount n)
    | (none, _) => .error (.badCount (2 ^ 64 - 1))
  | found => .error (.notAMap found)

def isKnown (record : Metadata) : Bool :=
  record.ipfs.isSome || record.bzzr0.isSome || record.bzzr1.isSome || record.solc.isSome

def read : Reader Metadata := fun bytes => do
  let (n, rest) ← count bytes
  let (record, rest) ← entries {} n rest
  if record.isKnown then .ok (record, rest) else .error .noKnownKeys

/-- The record at the front of the bytes and the number of bytes it takes. -/
def decode (bytes : Bytes) : Except Fault (Metadata × Nat) :=
  (read bytes).map fun (record, rest) => (record, bytes.length - rest.length)

end Metadata

end Provenance
