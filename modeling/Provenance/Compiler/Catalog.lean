import Provenance.Compiler.Fetch
import Provenance.Json.Reader
import Provenance.Json.Shape
import Provenance.Text.Basic
import Provenance.Url.Parser

/-!
Published builds of a compiler, and the lists in which a host publishes them. A
list gives every build with a path, relative to the list or absolute.
-/

namespace Provenance

structure Build where
  path : String
  url : Url
  version : String
  longVersion : String
  commit : Option String
  prerelease : Option String
  keccak256 : Option String
  sha256 : Option String
  urls : List String
  deriving DecidableEq, Repr

/-- Builds without the name of a preview are releases. -/
def Build.isRelease (build : Build) : Bool := build.prerelease.isNone

structure ListedBuild where
  path : String
  version : String
  longVersion : String
  build : Option String
  prerelease : Option String
  keccak256 : Option String
  sha256 : Option String
  urls : List String
  deriving DecidableEq, Repr

namespace ListedBuild

open Shape

def decode : Decoder ListedBuild :=
  record "FileInfo" false
    (ListedBuild.mk
      <$> Fields.required "path" string
      <*> Fields.required "version" string
      <*> Fields.required "longVersion" string
      <*> Fields.defaulted "build" (optional string) none
      <*> Fields.defaulted "prerelease" (optional string) none
      <*> Fields.defaulted "keccak256" (optional string) none
      <*> Fields.defaulted "sha256" (optional string) none
      <*> Fields.defaulted "urls" (list string) [])

def commitMark : List Char := "commit.".toList

def dropMarks (text : List Char) : List Char :=
  if commitMark.isPrefixOf text then dropMarks (text.drop commitMark.length) else text
  termination_by text.length
  decreasing_by
    rename_i h
    have := (List.isPrefixOf_iff_prefix.1 h).length_le
    have : 0 < commitMark.length := by decide
    simp only [List.length_drop]
    omega

def commit (entry : ListedBuild) : Option String :=
  entry.build.map fun text => String.ofList (dropMarks text.toList)

/-- The build that an entry of the list at the given place stands for. -/
def toBuild (list : Url) (entry : ListedBuild) : Except Url.Fault Build := do
  let url ← list.join entry.path
  .ok ⟨entry.path, url, entry.version, entry.longVersion, entry.commit, entry.prerelease,
    entry.keccak256, entry.sha256, entry.urls⟩

end ListedBuild

namespace Manifest

open Shape

def decode : Decoder (List ListedBuild) :=
  record "List" false (Fields.required "builds" (list ListedBuild.decode))

def interest : Json.Interest :=
  let fields := ["path", "version", "longVersion", "build", "prerelease", "keccak256", "sha256",
    "urls"]
  .members [("builds", .each (.members (fields.map fun name => (name, .whole))))]

/-- Reads a list; what follows it is ignored. A record that is given by an array
with too many items makes the text malformed. -/
def read (content : Bytes) : Except ManifestFault (List ListedBuild) := do
  let (document, _) ← (Json.readFront interest content).mapError .notJson
  match decode document with
  | .ok entries => .ok entries
  | .error ⟨_, .surplusItems _⟩ => .error (.notJson .malformed)
  | .error mismatch => .error (.badShape mismatch)

def builds (list : Url) (content : Bytes) : Except FetchFault (List Build) := do
  let entries ← (read content).mapError (.manifest list)
  (entries.mapM (ListedBuild.toBuild list)).mapError .badUrl

end Manifest

/-!
The builds of one platform, found by their long and by their short version. Of
the builds with one long version the last counts. Of those with one short
version the first release counts, or the first build where there is no release.
-/

structure Catalog where
  byLongVersion : List (String × Build)
  byVersion : List (String × Build)
  deriving DecidableEq, Repr

namespace Catalog

def empty : Catalog := ⟨[], []⟩

/-- Sets the build that an index holds under a version. -/
def put (version : String) (build : Build) : List (String × Build) → List (String × Build)
  | [] => [(version, build)]
  | (other, old) :: rest =>
    if other = version then (version, build) :: rest
    else (other, old) :: put version build rest

def replaces (new : Build) : Option Build → Bool
  | none => true
  | some old => !old.isRelease && new.isRelease

def add (catalog : Catalog) (build : Build) : Catalog where
  byLongVersion := put build.longVersion build catalog.byLongVersion
  byVersion :=
    if replaces build (catalog.byVersion.lookup build.version) then
      put build.version build catalog.byVersion
    else catalog.byVersion

def ofBuilds (builds : List Build) : Catalog := builds.foldl add empty

def longVersion? (catalog : Catalog) (longVersion : String) : Option Build :=
  catalog.byLongVersion.lookup longVersion

def version? (catalog : Catalog) (version : String) : Option Build :=
  catalog.byVersion.lookup version

def size (catalog : Catalog) : Nat := catalog.byLongVersion.length

def isEmpty (catalog : Catalog) : Bool := catalog.byLongVersion.isEmpty

/-- Fetches the catalog whose list is at the given place. -/
def fetch (network : Net.Network) (list : Url) : Net.Network × Except FetchFault Catalog :=
  let (network, content) := Provenance.fetch network list
  (network, do .ok (ofBuilds (← Manifest.builds list (← content))))

end Catalog

end Provenance
