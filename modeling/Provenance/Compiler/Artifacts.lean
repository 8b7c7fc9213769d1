import Provenance.Archive.Zip
import Provenance.Compiler.Fetch
import Provenance.Files.Tree
import Provenance.Text.Basic

/-!
Names of artifact files. They become parts of paths and of commands, so only
letters, digits and a few marks are accepted, a letter or a digit comes first,
and no two points stand together.
-/

namespace Provenance.FileName

def maxLength : Nat := 255

/-- The characters that may follow the first. -/
def isPlain (c : Char) : Bool :=
  Ascii.isAlphanumeric c || c = '.' || c = '_' || c = '+' || c = '-'

def hasDoublePoint : List Char → Bool
  | '.' :: '.' :: _ => true
  | _ :: rest => hasDoublePoint rest
  | [] => false

def isValid (name : String) : Bool :=
  match name.toList with
  | [] => false
  | first :: rest =>
    name.utf8ByteSize ≤ maxLength && Ascii.isAlphanumeric first && rest.all isPlain &&
      !hasDoublePoint (first :: rest)

end Provenance.FileName

/-!
Downloaded files, kept in one directory under their names. A file that is there
is not fetched. A new one is put together beside the others and moved to its
place when it is whole, so that a failure leaves no part of it.
-/

namespace Provenance

structure Surroundings where
  files : Files.Tree
  network : Net.Network

structure ArtifactOrder where
  url : Url
  fileName : String
  executable : Bool
  sha256 : Option String
  deriving DecidableEq, Repr

structure Artifacts where
  directory : String
  /-- The paths of files that were found or fetched, by name. -/
  published : List (String × String)
  lookups : Nat
  hits : Nat
  deriving DecidableEq, Repr

namespace Artifacts

def inDirectory (directory : String) : Artifacts := ⟨directory, [], 0, 0⟩

/-- Where files are put together, inside the directory. -/
def stagingName : String := "downloads"

def path (a : Artifacts) (fileName : String) : String := Files.joinPath a.directory fileName

def stagingPath (a : Artifacts) : String := a.path stagingName

def countLookup (a : Artifacts) : Artifacts := { a with lookups := a.lookups + 1 }

def countHit (a : Artifacts) : Artifacts := { a with hits := a.hits + 1 }

/-- The path of a file that was found or fetched before. -/
def published? (a : Artifacts) (fileName : String) : Option String :=
  a.published.lookup fileName

def publish (a : Artifacts) (fileName : String) : Artifacts :=
  { a with published := (fileName, a.path fileName) :: a.published }

/-- Whether something stands at the place of a file. -/
def isPresent (a : Artifacts) (files : Files.Tree) (fileName : String) :
    Except FetchFault Bool :=
  (files.exists? (a.path fileName)).mapError fun fault => .file fault.message

def check (order : ArtifactOrder) (data : Bytes) : Except FetchFault Unit :=
  match order.sha256 with
  | none => .ok ()
  | some expected => checkHash data expected

def isArchive (order : ArtifactOrder) : Bool :=
  ".zip".toList.isSuffixOf order.url.path.toList

def content (order : ArtifactOrder) (data : Bytes) : Except FetchFault Bytes :=
  if isArchive order then
    (Archive.program data).mapError fun
      | .archive text => .archive text
      | .data text => .file text
  else .ok data

/-- Moves a new file from the staging place to its own. A file that cannot be
moved is taken away. -/
def settle (files : Files.Tree) (staged : Files.Place) (path : String) :
    Files.Tree × Except FetchFault Unit :=
  match (do files.move staged (← files.locate path)) with
  | .ok files => (files, .ok ())
  | .error fault => (files.remove staged, .error (.file fault.message))

/-- Stores fetched data: checks it, makes the staging directory, takes the file
out of the data and puts it in its place. Directories that were made stay. -/
def store (a : Artifacts) (files : Files.Tree) (order : ArtifactOrder) (data : Bytes) :
    Files.Tree × Except FetchFault Unit :=
  match check order data with
  | .error fault => (files, .error fault)
  | .ok () =>
    match files.makeDirectories a.stagingPath with
    | .error fault => (files.makeFront a.stagingPath, .error (.file fault.message))
    | .ok (files, staging) =>
      match content order data with
      | .error fault => (files, .error fault)
      | .ok content =>
        let staged := staging ++ [files.freshName staging]
        settle (files.set staged (.file content order.executable)) staged (a.path order.fileName)

def transfer (a : Artifacts) (w : Surroundings) (order : ArtifactOrder) :
    Surroundings × Except FetchFault Unit :=
  let (network, fetched) := fetch w.network order.url
  match fetched with
  | .error fault => ({ w with network }, .error fault)
  | .ok data =>
    let (files, stored) := a.store w.files order data
    (⟨files, network⟩, stored)

/-- Finds or fetches a file that is not published, and publishes it. -/
def obtain (a : Artifacts) (w : Surroundings) (order : ArtifactOrder) :
    Artifacts × Surroundings × Except FetchFault String :=
  match a.isPresent w.files order.fileName with
  | .error fault => (a, w, .error fault)
  | .ok true => (a.publish order.fileName, w, .ok (a.path order.fileName))
  | .ok false =>
    let (w, outcome) := a.transfer w order
    match outcome with
    | .error fault => (a, w, .error fault)
    | .ok () => (a.publish order.fileName, w, .ok (a.path order.fileName))

def download (a : Artifacts) (w : Surroundings) (order : ArtifactOrder) :
    Artifacts × Surroundings × Except FetchFault String :=
  if !FileName.isValid order.fileName then (a, w, .error (.fileName order.fileName))
  else
    let a := a.countLookup
    match a.published? order.fileName with
    | some path => (a.countHit, w, .ok path)
    | none => a.obtain w order

end Artifacts

end Provenance
