import Provenance.Pipeline.Rehearsal
import Provenance.Proofs.Pipeline.Calls

/-!
Collaborators whose answers are known beforehand answer about a contract by what
was saved of it, whatever else has happened.
-/

namespace Provenance.Pipeline

def Ledger.outlook :
    Outlook Ledger (List (ContractIdentity × Attestation)) (List ContractIdentity) where
  saved id ledger := ledger.saved.filter fun entry => entry.1 = id
  journal ledger := (ledger.calls.filter fun entry => entry.2 = .save).map Prod.fst
  enter journal id _ := journal ++ [id]

namespace Script

open Ledger

/-- Calls other than saving are not seen. -/
theorem same_note (id : ContractIdentity) {call : Call} (hcall : call ≠ .save) (ledger : Ledger) :
    outlook.Same { ledger with calls := ledger.calls ++ [(id, call)] } ledger := by
  constructor
  · exact fun _ => rfl
  · simp [outlook, List.filter_append, hcall]

theorem reads_reply {α : Type} (s : Script) (id : ContractIdentity) {call : Call}
    (hcall : call ≠ .save) (answer : Answers → Except String α) :
    outlook.Reads id (s.reply id call answer) :=
  ⟨fun _ _ _ => rfl, same_note id hcall⟩

theorem any_eq_filter (ledger : Ledger) (id : ContractIdentity) :
    (ledger.saved.any fun entry => entry.1 = id) = !(outlook.saved id ledger).isEmpty := by
  rw [Bool.eq_iff_iff]
  simp [outlook]

theorem reads_hasMetadata (s : Script) (listing : Except String Unit) (id : ContractIdentity) :
    outlook.Reads id ((s.collaborators listing).hasMetadata id) := by
  constructor
  · intro w w' h
    have hkept : (w.saved.any fun entry => entry.1 = id) =
        w'.saved.any fun entry => entry.1 = id := by
      rw [any_eq_filter, any_eq_filter, h]
    simp only [collaborators, StateT.run_bind, StateT.run_get, pure_bind]
    rw [hkept]
    rfl
  · exact same_note id (by decide)

/-- What a call to save makes of a ledger. -/
theorem run_save (s : Script) (listing : Except String Unit) (id : ContractIdentity)
    (attestation : Attestation) (w : Ledger) :
    ((s.collaborators listing).save id attestation).run w =
      let answer := match s.answers? id with
        | some answers => answers.save
        | none => .error "unknown contract"
      (answer,
        { saved := if answer.isOk then w.saved ++ [(id, attestation)] else w.saved
          calls := w.calls ++ [(id, .save)] }) := by
  simp only [collaborators, reply]
  cases s.answers? id with
  | none => rfl
  | some answers =>
    cases hsave : answers.save with
    | error text => simp only [note, hsave]; rfl
    | ok done => simp only [note, hsave]; rfl

theorem local_collaborators (s : Script) (listing : Except String Unit) :
    outlook.Local (s.collaborators listing) where
  config id := s.reads_reply id (by decide) Answers.config
  hasMetadata id := s.reads_hasMetadata listing id
  input id := s.reads_reply id (by decide) Answers.input
  compile id compiler input w := same_note id (by decide) w
  compiled id compiler input w w' v v' _ _ := by
    simp only [collaborators]
    cases s.answers? id with
    | none => rfl
    | some answers => rfl
  finish id compiler input w v := by
    simp only [collaborators]
    cases s.answers? id with
    | none => exact .refl _ v
    | some answers => exact .refl _ v
  code id := s.reads_reply id (by decide) Answers.code
  save id attestation w w' h := by
    rw [run_save, run_save]
    refine ⟨rfl, ?_⟩
    dsimp only [outlook] at h ⊢
    generalize Except.isOk _ = kept
    cases kept with
    | false => exact h
    | true => simp only [if_true, List.filter_append, h]
  save_other id attestation w other hother := by
    rw [run_save]
    dsimp only [outlook]
    generalize Except.isOk _ = kept
    cases kept with
    | false => rfl
    | true => simp [List.filter_append, hother.symm]
  save_journal id attestation w := by
    rw [run_save]
    simp [outlook, List.filter_append]

end Script

end Provenance.Pipeline
