import Provenance.Pipeline.Basic
import Provenance.Runner.Config
import Provenance.Runner.Node
import Provenance.Runner.Store

/-!
The program: it reads its settings, takes the contracts from the store, compiles
them with downloaded compilers and compares them with the code that the nodes
give.
-/

namespace Provenance

structure Workshop where
  surroundings : Surroundings
  pool : CompilerPool
  nodes : NodeClient

namespace Workshop

/-- Work under the given settings, with nothing done yet. -/
def start (settings : Settings) (surroundings : Surroundings) : Workshop where
  surroundings
  pool := settings.compilers.pool
  nodes := { urls := settings.nodes.urls }

def ask {α : Type} (question : Files.Tree → Except StoreFault α) :
    StateM Workshop (Except String α) := do
  pure ((question (← get).surroundings.files).mapError StoreFault.message)

def compile (launch : Files.Tree → Execution.Launcher) (compiler : String) (input : Json) :
    StateM Workshop (Except CompilationFault Contracts) := do
  let w ← get
  let (pool, surroundings, result) := w.pool.compileWith launch w.surroundings compiler input
  set { w with pool, surroundings }
  pure result

def code (id : ContractIdentity) : StateM Workshop (Except String Bytes) := do
  let w ← get
  let (nodes, network, result) := w.nodes.code w.surroundings.network id.chain id.address
  set { w with nodes, surroundings := { w.surroundings with network } }
  pure (result.mapError NodeFault.message)

def save (store : ContractStore) (id : ContractIdentity) (attestation : Attestation) :
    StateM Workshop (Except String Unit) := do
  let w ← get
  match store.saveMetadata w.surroundings.files id attestation with
  | .error fault => pure (.error fault.message)
  | .ok files =>
    set { w with surroundings := { w.surroundings with files } }
    pure (.ok ())

def collaborators (store : ContractStore) (launch : Files.Tree → Execution.Launcher) :
    Collaborators Workshop where
  list := ask store.list
  config id := ask (store.config · id)
  hasMetadata id := ask (store.hasMetadata · id)
  input id := ask (store.input · id)
  compile _ compiler input := pure ⟨0, compile launch compiler input⟩
  code := code
  save := save store

end Workshop

namespace Program

inductive Fault where
  | config
  | pipeline (cause : Pipeline.Fault)
  deriving DecidableEq, Repr

def Fault.message : Fault → String
  | .config => "failed to read config"
  | .pipeline cause => cause.message

def verifyAll (launch : Files.Tree → Execution.Launcher) (settings : Settings)
    (surroundings : Surroundings) : Surroundings × Except Fault Summary :=
  let finished := Pipeline.run
    (Workshop.collaborators ⟨settings.contractsRoot⟩ launch) settings.pipeline
    (.start settings surroundings)
  (finished.course.world.surroundings, finished.result.mapError .pipeline)

def run (h : Host) (launch : Files.Tree → Execution.Launcher) (environment : List Variable)
    (surroundings : Surroundings) : Surroundings × Except Fault Summary :=
  match Settings.load h environment surroundings.files with
  | none => (surroundings, .error .config)
  | some settings => verifyAll launch settings surroundings

end Program

end Provenance
