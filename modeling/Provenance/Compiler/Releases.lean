import Provenance.Compiler.Catalog
import Provenance.Json.Shape

/-!
The catalogs of all platforms, fetched when they are first asked for. A catalog
that was fetched is kept. A failure leaves nothing behind, so the next request
fetches again. Requests may overlap; then at most one of those for a platform
fetches at a time.
-/

namespace Provenance

/-!
The platforms for which compiler builds are published, the directory of each on
a host of builds, and the names of files of builds.
-/

inductive Platform where
  | wasm
  | linux
  | macos
  | windows
  deriving DecidableEq, Repr

namespace Platform

def all : List Platform := [.wasm, .linux, .macos, .windows]

def name : Platform → String
  | .wasm => "wasm"
  | .linux => "linux-amd64"
  | .macos => "macos-amd64"
  | .windows => "windows-amd64"

/-- The directory of a platform's builds, which is also how it is shown. -/
def directory : Platform → String
  | .wasm => "wasm"
  | .linux => "linux-amd64"
  | .macos => "macosx-amd64"
  | .windows => "windows-amd64"

/-- The operating system that runs the builds; portable ones need none. -/
def system? : Platform → Option String
  | .wasm => none
  | .linux => some "linux"
  | .macos => some "macos"
  | .windows => some "windows"

def isWasm (platform : Platform) : Bool := platform = .wasm

def extension : Platform → String
  | .wasm => ".js"
  | .windows => ".exe"
  | .linux => ""
  | .macos => ""

def listPath (platform : Platform) : String := platform.directory ++ "/list.json"

/-- The local file name of the build with the given long version. -/
def artifactName (platform : Platform) (longVersion : String) : String :=
  "solc-" ++ platform.directory ++ "-v" ++ longVersion ++ platform.extension

def choices : List (String × Platform) := all.map fun p => (p.name, p)

def decode : Shape.Decoder Platform := Shape.choice choices

end Platform

structure Releases where
  base : Url
  lists : List (Platform × Url)
  loaded : List (Platform × Catalog)

namespace Releases

def ofHost (base : Url) (lists : List (Platform × Url)) : Releases := ⟨base, lists, []⟩

def listUrl (r : Releases) (platform : Platform) : Except FetchFault Url :=
  match r.lists.lookup platform with
  | some url => .ok url
  | none => (r.base.join platform.listPath).mapError .badUrl

def fetch (r : Releases) (network : Net.Network) (platform : Platform) :
    Net.Network × Except FetchFault Catalog :=
  match r.listUrl platform with
  | .error fault => (network, .error fault)
  | .ok list => Catalog.fetch network list

def keep (r : Releases) (platform : Platform) (catalog : Catalog) : Releases :=
  { r with loaded := (platform, catalog) :: r.loaded }

def settle (r : Releases) (platform : Platform) (result : Except FetchFault Catalog) : Releases :=
  match result with
  | .ok catalog => r.keep platform catalog
  | .error _ => r

/-- The catalog of a platform, fetched unless it is there. -/
def get (r : Releases) (network : Net.Network) (platform : Platform) :
    Releases × Net.Network × Except FetchFault Catalog :=
  match r.loaded.lookup platform with
  | some catalog => (r, network, .ok catalog)
  | none =>
    let (network, result) := r.fetch network platform
    (r.settle platform result, network, result)

/-! Overlapping requests -/

inductive Phase where
  | waiting
  | fetching
  | ended (result : Except FetchFault Catalog)

structure Overlap where
  releases : Releases
  network : Net.Network
  requests : List (Platform × Phase)

namespace Overlap

def isFetching (o : Overlap) (platform : Platform) : Bool :=
  o.requests.any fun request =>
    request.1 = platform && match request.2 with
      | .fetching => true
      | _ => false

def setPhase (o : Overlap) (index : Nat) (platform : Platform) (phase : Phase) : Overlap :=
  { o with requests := o.requests.set index (platform, phase) }

/-- The next step of a request, if it can make one. A waiting request ends with
the catalog if it is there; otherwise it fetches as soon as no other does. -/
def advance (o : Overlap) (index : Nat) : Option Overlap :=
  match o.requests[index]? with
  | some (platform, .waiting) =>
    match o.releases.loaded.lookup platform with
    | some catalog => some (o.setPhase index platform (.ended (.ok catalog)))
    | none =>
      if o.isFetching platform then none else some (o.setPhase index platform .fetching)
  | some (platform, .fetching) =>
    let (network, result) := o.releases.fetch o.network platform
    some { o with
      releases := o.releases.settle platform result
      network
      requests := o.requests.set index (platform, .ended result) }
  | _ => none

def Step (before after : Overlap) : Prop := ∃ index, before.advance index = some after

end Overlap

end Releases

end Provenance
