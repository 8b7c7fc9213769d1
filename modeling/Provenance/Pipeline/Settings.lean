import Provenance.Json.Scalar

/-!
How a pipeline goes about its work.
-/

namespace Provenance

structure PipelineSettings where
  workers : Nat
  /-- How many contracts beyond the workers may be ahead of the oldest one. -/
  workAheadLimit : Nat
  /-- Stop at the first contract that is not verified. -/
  failFast : Bool
  saveMetadata : Bool
  /-- Verify contracts again that have their metadata saved. -/
  force : Bool
  deriving DecidableEq, Repr

namespace PipelineSettings

/-- The settings where nothing is said but how many workers there are. -/
def standard (workers : Nat) : PipelineSettings := ⟨workers, 16, false, true, false⟩

open Shape

/-- Reads settings, with a number of workers for when none is given. -/
def decodeBy (values : Values) (workers : Nat) : Decoder PipelineSettings :=
  let absent := standard workers
  values.record "PipelineSettings" true
    (mk <$> Fields.defaulted "workers" (values.unsigned "usize") absent.workers
      <*> Fields.defaulted "work_ahead_limit" (values.unsigned "usize") absent.workAheadLimit
      <*> Fields.defaulted "fail_fast" values.boolean absent.failFast
      <*> Fields.defaulted "save_metadata" values.boolean absent.saveMetadata
      <*> Fields.defaulted "force" values.boolean absent.force)

def decode (workers : Nat) : Decoder PipelineSettings := decodeBy strictValues workers

end PipelineSettings

end Provenance
