import Provenance.Pipeline.Basic
import Provenance.Proofs.Code.Agreement

/-!
Fingerprints of code that agrees. An operand that was filled in leaves its opcode
as it is, so code that agrees on a level has the same fingerprints as far as the
level sees it. What is kept of a verified contract is made of its live code, and
its opcodes are those of the code that the compiler gave.
-/

namespace Provenance

namespace Code

/-- Streams that agree have the same opcodes, whatever their operands. -/
theorem Agree.map_opcode {lives compileds : List Instruction} (h : Agree lives compileds) :
    lives.map Instruction.opcode = compileds.map Instruction.opcode := by
  induction h with
  | nil => rfl
  | cons hhead _ ih => rw [List.map_cons, List.map_cons, (Instruction.agrees_iff.1 hhead).1, ih]

theorem opcodes_eq_of_instructionsAgree {live compiled : Bytes}
    (h : instructionsAgree live compiled = true) : opcodes live = opcodes compiled :=
  (instructionsAgree_iff.1 h).map_opcode

variable {live compiled : Bytes}

theorem fingerprints_opcode_eq (h : (compare live compiled).opcode = true) :
    (fingerprints live).opcode = (fingerprints compiled).opcode :=
  congrArg fingerprint (opcodes_eq_of_instructionsAgree h)

theorem fingerprints_metaless_eq (h : (compare live compiled).runtime = true) :
    (fingerprints live).metaless = (fingerprints compiled).metaless :=
  congrArg fingerprint (of_decide_eq_true h)

theorem fingerprints_eq (h : (compare live compiled).direct = true) :
    fingerprints live = fingerprints compiled :=
  congrArg fingerprints (of_decide_eq_true h)

end Code

/-- The code of a candidate is what its text says. -/
theorem Candidate.decode_of_find {contracts : Contracts} {name : String} {path : Option String}
    {candidate : Candidate} (h : Candidate.find contracts name path = .ok candidate) :
    Hex.decode candidate.contract.deployedBytecode = .ok candidate.code := by
  unfold Candidate.find at h
  split at h
  · cases h
  · split at h
    · cases h
    · rename_i hcode
      cases h
      exact hcode

/-- A verified contract is one whose comparison says so, and what is kept of it is
made of its verdict. -/
theorem Pipeline.verified_of_judge {compiler : String} {verdict kept : Verdict}
    {attestation : Attestation}
    (h : Pipeline.judge compiler verdict = .verified kept attestation) :
    verdict.comparison.isVerified = true ∧ attestation = .ofVerdict compiler verdict := by
  unfold Pipeline.judge at h
  split at h
  · rename_i hverified
    cases h
    exact ⟨hverified, rfl⟩
  · cases h

/-- Code that agrees on a level of comparison has the same fingerprints there: of
its opcodes on the opcode level, of its bytes without metadata as well on the
runtime level, and of all its bytes on the direct level. So the opcode fingerprint
that is kept of a verified contract, which is taken of the live code, is also that
of the code that is kept with it. -/
theorem fingerprints_agree :
    (∀ live compiled : Bytes,
      ((Code.compare live compiled).opcode = true →
        (Code.fingerprints live).opcode = (Code.fingerprints compiled).opcode) ∧
      ((Code.compare live compiled).runtime = true →
        (Code.fingerprints live).metaless = (Code.fingerprints compiled).metaless ∧
          (Code.fingerprints live).opcode = (Code.fingerprints compiled).opcode) ∧
      ((Code.compare live compiled).direct = true →
        (Code.fingerprints live).runtime = (Code.fingerprints compiled).runtime ∧
          (Code.fingerprints live).metaless = (Code.fingerprints compiled).metaless ∧
          (Code.fingerprints live).opcode = (Code.fingerprints compiled).opcode)) ∧
    ∀ id contracts name path live verdict compiler kept attestation,
      verify id contracts name path live = .ok verdict →
      Pipeline.judge compiler verdict = .verified kept attestation →
      ∃ liveCode compiled, live = .ok liveCode ∧
        Hex.decode attestation.deployedBytecode = .ok compiled ∧
        attestation.fingerprints = Code.fingerprints liveCode ∧
        attestation.fingerprints.opcode = (Code.fingerprints compiled).opcode := by
  refine ⟨fun live compiled => ⟨Code.fingerprints_opcode_eq, ?_, ?_⟩, ?_⟩
  · intro hruntime
    exact ⟨Code.fingerprints_metaless_eq hruntime,
      Code.fingerprints_opcode_eq (Code.opcode_of_runtime hruntime)⟩
  · intro hdirect
    rw [Code.fingerprints_eq hdirect]
    exact ⟨rfl, rfl, rfl⟩
  · intro id contracts name path live verdict compiler kept attestation hverify hjudge
    obtain ⟨hfind, hlive, hcomparison⟩ := Code.eq_ok_of_verify hverify
    obtain ⟨hverified, rfl⟩ := Pipeline.verified_of_judge hjudge
    rw [hcomparison, Code.isVerified_eq_opcode] at hverified
    exact ⟨verdict.liveCode, verdict.candidate.code, hlive, Candidate.decode_of_find hfind, rfl,
      Code.fingerprints_opcode_eq hverified⟩

/-- A contract with an immutable variable of one byte, and a push that its end cuts
short: its live code has the opcodes of what the compiler gave and other bytes. -/
theorem fingerprints_agree_immutable :
    let contracts : Contracts := [("Vault.sol", [("Vault", ⟨.null, "", "0x60006101"⟩)])]
    let live : Bytes := [0x60, 0x2A, 0x61, 0x01]
    let compiled : Bytes := [0x60, 0x00, 0x61, 0x01]
    (Code.compare live compiled).opcode = true ∧ (Code.compare live compiled).runtime = false ∧
      (Code.fingerprints live).opcode = (Code.fingerprints compiled).opcode ∧
      ∃ verdict kept attestation,
        verify ⟨1, "0xa"⟩ contracts "Vault" none (.ok live) = .ok verdict ∧
        Pipeline.judge "v0.8.9" verdict = .verified kept attestation ∧
        ∃ code, Hex.decode attestation.deployedBytecode = .ok code ∧
          attestation.fingerprints.opcode = (Code.fingerprints code).opcode := by
  intro contracts live compiled
  let verdict : Verdict := ⟨Code.compare live compiled, live,
    ⟨"Vault.sol", "Vault", ⟨.null, "", "0x60006101"⟩, compiled⟩⟩
  obtain ⟨hlevels, hkept⟩ := fingerprints_agree
  have hcompare : Code.compare live compiled = ⟨false, false, true⟩ := by decide +kernel
  have hopcode : (Code.compare live compiled).opcode = true := by rw [hcompare]
  have hverify : verify ⟨1, "0xa"⟩ contracts "Vault" none (.ok live) = .ok verdict := rfl
  have hjudge : Pipeline.judge "v0.8.9" verdict =
      .verified verdict (.ofVerdict "v0.8.9" verdict) :=
    if_pos (by rw [show verdict.comparison = _ from hcompare]; rfl)
  obtain ⟨_, code, -, hcode, -, hsame⟩ := hkept _ _ _ _ _ _ _ _ _ hverify hjudge
  exact ⟨hopcode, by rw [hcompare], (hlevels live compiled).1 hopcode, verdict, verdict, _, hverify,
    hjudge, code, hcode, hsame⟩

end Provenance
