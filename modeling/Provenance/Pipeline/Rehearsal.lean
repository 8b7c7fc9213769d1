import Provenance.Pipeline.Basic

/-!
Collaborators whose answers are known beforehand. Every contract has its answers
and the time that its compilation takes; what was saved and what was asked of
whom is remembered.
-/

namespace Provenance.Pipeline

inductive Call where
  | config
  | hasMetadata
  | input
  | compile
  | code
  | save
  deriving DecidableEq, Repr

def Call.name : Call → String
  | .config => "config"
  | .hasMetadata => "has_metadata"
  | .input => "input"
  | .compile => "compile"
  | .code => "code"
  | .save => "save"

structure Answers where
  config : Except String ContractConfig
  hasMetadata : Except String Bool
  input : Except String Json
  output : Option Json
  code : Except String Bytes
  save : Except String Unit
  latency : Nat

/-- Contracts with their answers. The first answers of a contract count. -/
abbrev Script := List (ContractIdentity × Answers)

structure Ledger where
  saved : List (ContractIdentity × Attestation) := []
  calls : List (ContractIdentity × Call) := []

namespace Script

def answers? (s : Script) (id : ContractIdentity) : Option Answers := List.lookup id s

def note (id : ContractIdentity) (call : Call) : StateM Ledger Unit :=
  modify fun l => { l with calls := l.calls ++ [(id, call)] }

def reply {α : Type} (s : Script) (id : ContractIdentity) (call : Call)
    (answer : Answers → Except String α) : StateM Ledger (Except String α) := do
  note id call
  pure (match s.answers? id with
    | some answers => answer answers
    | none => .error "unknown contract")

/-- What compiling comes to: the name is read first, then the compiler is found. -/
def compile (answers : Answers) (compiler : String) : Except CompilationFault Contracts := do
  let name ← (CompilerName.parse compiler).mapError .badName
  match answers.output with
  | none => .error (.notFound name.longVersion)
  | some output => (CompilerOutput.contracts? output).map Prod.fst

def collaborators (s : Script) (listing : Except String Unit) : Collaborators Ledger where
  list := pure (listing.map fun _ => s.map Prod.fst)
  config id := s.reply id .config Answers.config
  hasMetadata id := do
    let kept := (← get).saved.any fun entry => entry.1 = id
    s.reply id .hasMetadata fun answers => answers.hasMetadata.map (· || kept)
  input id := s.reply id .input Answers.input
  compile id compiler _ := do
    note id .compile
    pure (match s.answers? id with
      | some answers => ⟨answers.latency, pure (compile answers compiler)⟩
      | none => ⟨0, pure (.error (.notFound compiler))⟩)
  code id := s.reply id .code Answers.code
  save id attestation := do
    let outcome ← s.reply id .save Answers.save
    if outcome.isOk then
      modify fun l => { l with saved := l.saved ++ [(id, attestation)] }
    pure outcome

end Script

end Provenance.Pipeline
