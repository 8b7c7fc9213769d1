import Provenance.Compiler.Fault
import Provenance.Contract.Attestation
import Provenance.Contract.Basic
import Provenance.Pipeline.Settings
import Provenance.Queue.Clock

/-!
The pipeline: contracts go through the ordered queue, each is compiled and
verified by a worker, and the outcomes are taken in the order of the contracts.
What the pipeline needs of others is a record of actions on a world that they
share, so that a store, a compiler and a node can be anything.
-/

namespace Provenance

/-!
What becomes of a contract in the pipeline, and the counts of it.
-/

inductive ItemFault where
  | store (text : String)
  | compilation (cause : CompilationFault)
  | verification (cause : VerificationFault)

def ItemFault.message : ItemFault → String
  | .store text => "contract storage: " ++ text
  | .compilation cause => cause.message
  | .verification cause => cause.message

inductive ItemOutcome where
  | skipped
  | jumped
  | verified (verdict : Verdict) (attestation : Attestation)
  | unverified (verdict : Verdict)
  | failed (cause : ItemFault)

namespace ItemOutcome

/-- Whether a count overflowed while the contract was compiled. -/
def isOverflow : ItemOutcome → Bool
  | .failed (.compilation (.execution .overflow)) => true
  | _ => false

def label : ItemOutcome → String
  | .skipped => "skipped"
  | .jumped => "jumped"
  | .verified _ _ => "verified"
  | .unverified _ => "unverified"
  | .failed _ => "failed"

def complaint? : ItemOutcome → Option String
  | .unverified _ => some "bytecode mismatch"
  | .failed cause => some cause.message
  | _ => none

end ItemOutcome

structure Summary where
  verified : Nat := 0
  unverified : Nat := 0
  skipped : Nat := 0
  jumped : Nat := 0
  failed : Nat := 0
  deriving DecidableEq, Repr

namespace Summary

def total (s : Summary) : Nat := s.verified + s.unverified + s.skipped + s.jumped + s.failed

def record (s : Summary) : ItemOutcome → Summary
  | .skipped => { s with skipped := s.skipped + 1 }
  | .jumped => { s with jumped := s.jumped + 1 }
  | .verified _ _ => { s with verified := s.verified + 1 }
  | .unverified _ => { s with unverified := s.unverified + 1 }
  | .failed _ => { s with failed := s.failed + 1 }

theorem total_record (s : Summary) (outcome : ItemOutcome) :
    (s.record outcome).total = s.total + 1 := by
  cases outcome <;> simp only [record, total] <;> omega

end Summary

/-- A compilation that has begun: the time it takes and how it ends. -/
structure Compiling (σ : Type) where
  duration : Nat
  finish : StateM σ (Except CompilationFault Contracts)

/-- What the pipeline asks of others about a contract. -/
structure Collaborators (σ : Type) where
  list : StateM σ (Except String (List ContractIdentity))
  config : ContractIdentity → StateM σ (Except String ContractConfig)
  hasMetadata : ContractIdentity → StateM σ (Except String Bool)
  input : ContractIdentity → StateM σ (Except String Json)
  compile : ContractIdentity → String → Json → StateM σ (Compiling σ)
  code : ContractIdentity → StateM σ (Except String Bytes)
  save : ContractIdentity → Attestation → StateM σ (Except String Unit)

namespace Pipeline

variable {σ : Type}

/-- Work on a contract, which may come to its outcome early. -/
abbrev Work (σ α : Type) := ExceptT ItemOutcome (StateM σ) α

/-- An action of the store, whose failure is the contract's. -/
def stored {α : Type} (action : StateM σ (Except String α)) : Work σ α := do
  match ← action with
  | .ok value => pure value
  | .error text => throw (.failed (.store text))

/-- All that comes before the compiler. Contracts that are excluded, or have
their metadata, come to their outcome here. -/
def prepare (c : Collaborators σ) (force : Bool) (id : ContractIdentity) :
    Work σ (ContractConfig × Compiling σ) := do
  let config ← stored (c.config id)
  if config.skip then throw .skipped
  if !force then
    if ← stored (c.hasMetadata id) then throw .jumped
  let input ← stored (c.input id)
  let compiling ← c.compile id config.compiler input
  pure (config, compiling)

def judge (compiler : String) (verdict : Verdict) : ItemOutcome :=
  if verdict.comparison.isVerified then
    .verified verdict (.ofVerdict compiler verdict)
  else .unverified verdict

/-- All that comes after the compiler. The node is asked only if there is code
to compare with. -/
def conclude (c : Collaborators σ) (id : ContractIdentity) (config : ContractConfig)
    (compiled : Except CompilationFault Contracts) : StateM σ ItemOutcome := do
  match compiled with
  | .error cause => pure (.failed (.compilation cause))
  | .ok contracts =>
    match Candidate.find contracts config.name config.sourcePath with
    | .error cause => pure (.failed (.verification cause))
    | .ok candidate =>
      match ← c.code id with
      | .error text => pure (.failed (.verification (.node text)))
      | .ok code =>
        match candidate.judge id code with
        | .error cause => pure (.failed (.verification cause))
        | .ok verdict => pure (judge config.compiler verdict)

/-- The whole work on a contract, without regard to time. -/
def verifyContract (c : Collaborators σ) (force : Bool) (id : ContractIdentity) :
    StateM σ ItemOutcome := do
  match ← prepare c force id with
  | .error outcome => pure outcome
  | .ok (config, compiling) =>
    let compiled ← compiling.finish
    conclude c id config compiled

/-- Why a pipeline stops. At an overflow the program breaks off. -/
inductive Fault where
  | list (text : String)
  | noWorkers
  | failFast (id : ContractIdentity) (reason : String)
  | workerLost
  | overflow
  deriving DecidableEq, Repr

def Fault.message : Fault → String
  | .list text => "failed to list contracts: " ++ text
  | .noWorkers => "no pipeline workers configured"
  | .failFast id reason => "stopped after " ++ id.text ++ ": " ++ reason
  | .workerLost => "pipeline worker failed"
  | .overflow => "attempt to add with overflow"

def Fault.ofQueue : Queue.Failure Fault → Fault
  | .noWorkers => .noWorkers
  | .handler cause => cause
  | .workerLost => .workerLost
  | .overflow => .overflow

structure Report where
  id : ContractIdentity
  index : Nat
  outcome : ItemOutcome
  stopped : Option Fault
  summary : Summary

/-- The world of a run: that of the collaborators, the counts and the reports. -/
structure Course (σ : Type) where
  world : σ
  summary : Summary := {}
  reports : List Report := []

/-- Saves the metadata of a verified contract. One that cannot be saved has
failed. -/
def settle (c : Collaborators σ) (settings : PipelineSettings) (id : ContractIdentity)
    (outcome : ItemOutcome) : StateM σ ItemOutcome := do
  match outcome with
  | .verified _ attestation =>
    if settings.saveMetadata then
      match ← c.save id attestation with
      | .ok _ => pure outcome
      | .error text => pure (.failed (.store text))
    else pure outcome
  | _ => pure outcome

/-- Takes the outcome of a contract: saves, counts, and stops if that is asked
for. -/
def take (c : Collaborators σ) (settings : PipelineSettings) (course : Course σ) (index : Nat)
    (id : ContractIdentity) (outcome : ItemOutcome) : Course σ × Option Fault :=
  let (settled, world) := (settle c settings id outcome).run course.world
  let summary := course.summary.record settled
  let stopped :=
    if settings.failFast then settled.complaint?.map (Fault.failFast id) else none
  ({ world, summary, reports := course.reports ++ [⟨id, index, outcome, stopped, summary⟩] },
    stopped)

/-- Runs an action of the collaborators inside a course. -/
def Course.act {α : Type} (course : Course σ) (action : StateM σ α) : Course σ × α :=
  let (value, world) := action.run course.world
  ({ course with world }, value)

/-- How work on a contract ends: with its outcome, or with the worker, who does not
survive an overflow. -/
def ended (outcome : ItemOutcome) : Queue.Outcome ItemOutcome Unit :=
  if outcome.isOverflow then .lost else .completed () outcome

/-- Workers and handler of the queue. A worker waits as long as its compiler. -/
def actors (c : Collaborators σ) (settings : PipelineSettings) :
    Queue.Actors ContractIdentity ItemOutcome Unit (Course σ) Fault where
  work _ course item _ :=
    let finished (config : ContractConfig) (compiling : Compiling σ) (course : Course σ) :
        Course σ × Queue.Outcome ItemOutcome Unit :=
      let (course, compiled) := course.act compiling.finish
      let (course, outcome) := course.act (conclude c item.payload config compiled)
      (course, ended outcome)
    match course.act (prepare c settings.force item.payload) with
    | (course, .error outcome) => (course, .ended (ended outcome))
    | (course, .ok (config, compiling)) =>
      if compiling.duration = 0 then
        let (course, outcome) := finished config compiling course
        (course, .ended outcome)
      else (course, .waiting compiling.duration (finished config compiling))
  finish _ course _ _ := course
  handle _ course delivery :=
    let (course, stopped) :=
      take c settings course delivery.item.index delivery.item.payload delivery.output
    (course, 0, stopped)

structure Finished (σ : Type) where
  result : Except Fault Summary
  course : Course σ

def runFor (c : Collaborators σ) (settings : PipelineSettings) (ids : List ContractIdentity)
    (world : σ) : Finished σ :=
  let finished := Queue.process (actors c settings) ids (List.replicate settings.workers ())
    settings.workAheadLimit { world }
  let result := match finished.result with
    | .ok _ => .ok finished.state.summary
    | .error failure => .error (Fault.ofQueue failure)
  ⟨result, finished.state⟩

def run (c : Collaborators σ) (settings : PipelineSettings) (world : σ) : Finished σ :=
  match c.list.run world with
  | (.error text, world) => ⟨.error (.list text), { world }⟩
  | (.ok ids, world) => runFor c settings ids world

end Pipeline

end Provenance
