import Provenance.Compiler.Artifacts
import Provenance.Compiler.Selection
import Provenance.Execution.Process
import Provenance.Execution.Portable

/-!
Compilers by name. A build is chosen for the name, its file is downloaded, and
the program in the file compiles. A build that is listed but has no file counts
as a version that is not there, not as a broken network.
-/

namespace Provenance

structure CompilerPolicy where
  /-- The platform of the host, unless only portable builds are used. -/
  native : Option Platform
  mode : Execution.LaunchMode
  limits : Execution.Limits
  worker : Execution.WorkerCommand

structure CompilerPool where
  policy : CompilerPolicy
  releases : Releases
  artifacts : Artifacts

structure InstalledCompiler where
  selection : Selection
  path : String
  deriving DecidableEq, Repr

structure Compiled where
  selection : Selection
  contracts : Contracts
  sources : List (String × Json)
  answer : Json

/-- The file of a chosen build. Portable ones are not programs of the host. -/
def Selection.order (s : Selection) : ArtifactOrder where
  url := s.build.url
  fileName := s.platform.artifactName s.build.longVersion
  executable := !s.platform.isWasm
  sha256 := s.build.sha256

def CompilationFault.ofDownload (name : CompilerName) : FetchFault → CompilationFault
  | .notFound _ => .notFound name.longVersion
  | fault => .fetch fault

namespace InstalledCompiler

/-- The compiler at the path of its file. The worker of a portable compiler may be
in another directory, so it is given the path from the root. -/
def at? (files : Files.Tree) (selection : Selection) (path : String) :
    Except CompilationFault InstalledCompiler :=
  if selection.platform.isWasm then
    match files.resolve path with
    | .ok path => .ok ⟨selection, path⟩
    | .error fault => .error (.misplaced fault)
  else .ok ⟨selection, path⟩

def run (c : InstalledCompiler) (policy : CompilerPolicy) (launch : Execution.Launcher)
    (input : Json) : Except Execution.Fault Json :=
  if c.selection.platform.isWasm then
    Execution.compilePortably launch policy.worker policy.limits ⟨1, c.path, input⟩
  else Execution.compileNatively launch policy.mode c.path policy.limits input

/-- Compiles, if the compiler accepts the input. -/
def compile (c : InstalledCompiler) (policy : CompilerPolicy) (launch : Execution.Launcher)
    (input : Json) : Except CompilationFault Compiled := do
  let answer ← (c.run policy launch input).mapError .execution
  let (contracts, sources) ← CompilerOutput.contracts? answer
  .ok ⟨c.selection, contracts, sources, answer⟩

end InstalledCompiler

namespace CompilerPool

def select (p : CompilerPool) (network : Net.Network) (name : CompilerName) :
    CompilerPool × Net.Network × Except CompilationFault Selection :=
  let (releases, network, result) := p.releases.resolve network name .wasm p.policy.native
  ({ p with releases }, network, result)

def install (p : CompilerPool) (w : Surroundings) (name : CompilerName) (s : Selection) :
    CompilerPool × Surroundings × Except CompilationFault InstalledCompiler :=
  let (artifacts, w, result) := p.artifacts.download w s.order
  ({ p with artifacts }, w,
    match result with
    | .error fault => .error (.ofDownload name fault)
    | .ok path => InstalledCompiler.at? w.files s path)

def provide (p : CompilerPool) (w : Surroundings) (name : CompilerName) :
    CompilerPool × Surroundings × Except CompilationFault InstalledCompiler :=
  match p.select w.network name with
  | (p, network, .error fault) => (p, { w with network }, .error fault)
  | (p, network, .ok selection) => p.install { w with network } name selection

/-- Compiles with the compiler of a name, on a host that starts the programs among
its files. -/
def compile (p : CompilerPool) (launch : Files.Tree → Execution.Launcher) (w : Surroundings)
    (name : CompilerName) (input : Json) :
    CompilerPool × Surroundings × Except CompilationFault Compiled :=
  let (p, w, provided) := p.provide w name
  (p, w, do (← provided).compile p.policy (launch w.files) input)

def compileWith (p : CompilerPool) (launch : Files.Tree → Execution.Launcher) (w : Surroundings)
    (compiler : String) (input : Json) :
    CompilerPool × Surroundings × Except CompilationFault Contracts :=
  match CompilerName.parse compiler with
  | .error fault => (p, w, .error (.badName fault))
  | .ok name =>
    let (p, w, compiled) := p.compile launch w name input
    (p, w, compiled.map Compiled.contracts)

end CompilerPool

end Provenance
