import Provenance.Compiler.Fault
import Provenance.Compiler.Releases

/-!
The build that serves a compiler's name. An exact build is preferred to one that
shares only the short version, and among each kind a native build to a portable
one. A catalog that cannot be had takes no part, and its failure counts only
when no other catalog offers a build.
-/

namespace Provenance

structure Selection where
  platform : Platform
  build : Build
  requested : CompilerName
  deriving DecidableEq, Repr

def Selection.isFallback (s : Selection) : Bool :=
  s.build.longVersion != s.requested.longVersion

abbrev Supply := Platform × Except FetchFault Catalog

namespace CompilerName

/-- Whether a build with the name's short version is the release of its commit. -/
def isReleasedAs (name : CompilerName) (build : Build) : Bool :=
  build.isRelease && build.commit.any name.matchesCommit

/-- The very build that is asked for: by its long version, or else the release of
the short version with the same commit. -/
def exactIn (name : CompilerName) (catalog : Catalog) : Option Build :=
  (catalog.longVersion? name.longVersion).or
    ((catalog.version? name.version).filter name.isReleasedAs)

def sameVersionIn (name : CompilerName) (catalog : Catalog) : Option Build :=
  catalog.version? name.version

def firstIn (find : Catalog → Option Build) (supplies : List Supply) :
    Option (Platform × Build) :=
  supplies.findSome? fun (platform, supply) =>
    match supply with
    | .ok catalog => (find catalog).map (platform, ·)
    | .error _ => none

def firstFault (supplies : List Supply) : Option FetchFault :=
  supplies.findSome? fun (_, supply) =>
    match supply with
    | .ok _ => none
    | .error fault => some fault

/-- Chooses a build among the supplies, the preferred ones first. -/
def select (name : CompilerName) (supplies : List Supply) :
    Except CompilationFault Selection :=
  match (firstIn name.exactIn supplies).or (firstIn name.sameVersionIn supplies) with
  | some (platform, build) => .ok ⟨platform, build, name⟩
  | none =>
    match firstFault supplies with
    | some fault => .error (.fetch fault)
    | none => .error (.notFound name.longVersion)

end CompilerName

namespace Releases

/-- The supplies of a portable and perhaps a native platform, the native first. -/
def supplies (r : Releases) (network : Net.Network) (portable : Platform)
    (native : Option Platform) : Releases × Net.Network × List Supply :=
  let (r, network, supply) := r.get network portable
  match native with
  | none => (r, network, [(portable, supply)])
  | some native =>
    let (r, network, preferred) := r.get network native
    (r, network, [(native, preferred), (portable, supply)])

def resolve (r : Releases) (network : Net.Network) (name : CompilerName) (portable : Platform)
    (native : Option Platform) : Releases × Net.Network × Except CompilationFault Selection :=
  let (r, network, supplies) := r.supplies network portable native
  (r, network, name.select supplies)

end Releases

end Provenance
