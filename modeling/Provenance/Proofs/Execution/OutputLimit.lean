import Provenance.Execution.Process
import Provenance.Proofs.Execution.Lines
import Provenance.Proofs.Json.Compact

/-!
The limit on what a compiler writes. Of each of its streams one byte more than the limit is
asked for, which tells a stream that ends within the limit from one that does not. Under the
greatest word this sum overflows, and the program breaks off.
-/

namespace Provenance

namespace Execution

variable {limit : Nat}

theorem readCapped_greatest (hlimit : limit + 1 = 2 ^ 64) (content : Bytes) :
    readCapped content limit = .error .overflow := by
  rw [readCapped, asked_greatest hlimit]
  rfl

/-- The byte beyond the limit is all that is seen of a longer content. -/
theorem readCapped_of_lt (hlimit : limit + 1 < 2 ^ 64) (content : Bytes) :
    readCapped content limit =
      if content.length ≤ limit then .ok content else .error (.tooLarge limit) := by
  rw [readCapped, asked_eq (by omega)]
  change (if limit < (content.take (limit + 1)).length then .error (.tooLarge limit)
    else .ok (content.take (limit + 1)) : Except Fault Bytes) = _
  by_cases hfits : content.length ≤ limit
  · rw [if_pos hfits, List.take_of_length_le (Nat.le_succ_of_le hfits)]
    exact if_neg (Nat.not_lt.2 hfits)
  · have hseen : (content.take (limit + 1)).length = limit + 1 :=
      List.length_take_of_le (Nat.lt_of_not_le hfits)
    rw [if_neg hfits]
    exact if_pos (by rw [hseen]; exact Nat.lt_succ_self limit)

namespace Process

variable {process : Process} {timeout : Duration} {input : Bytes}

/-- Within the limit on both streams, a process that ends has written just what it is
taken to have written. -/
theorem finish_of_le (hlimit : limit + 1 < 2 ^ 64)
    (houtput : (process timeout ⟨input, true⟩).output.length ≤ limit)
    (herrors : (process timeout ⟨input, true⟩).errors.length ≤ limit) {status : ExitStatus}
    (hstatus : (process timeout ⟨input, true⟩).status = some status) :
    process.finish ⟨timeout, limit⟩ input =
      .ok ⟨status, (process timeout ⟨input, true⟩).output,
        (process timeout ⟨input, true⟩).errors⟩ := by
  simp only [finish, readCapped_of_lt hlimit, if_pos houtput, if_pos herrors, hstatus]
  rfl

/-- Either stream can be too long, and the other one does not matter then. -/
theorem finish_of_lt (hlimit : limit + 1 < 2 ^ 64)
    (hlong : limit < (process timeout ⟨input, true⟩).output.length ∨
      limit < (process timeout ⟨input, true⟩).errors.length) :
    process.finish ⟨timeout, limit⟩ input = .error (.tooLarge limit) := by
  simp only [finish, readCapped_of_lt hlimit]
  by_cases houtput : (process timeout ⟨input, true⟩).output.length ≤ limit
  · have herrors := Nat.not_le.2 (hlong.resolve_left (Nat.not_lt.2 houtput))
    rw [if_pos houtput, if_neg herrors]
    rfl
  · rw [if_neg houtput]
    rfl

theorem finish_greatest (hlimit : limit + 1 = 2 ^ 64) :
    process.finish ⟨timeout, limit⟩ input = .error .overflow := by
  simp only [finish, readCapped_greatest hlimit]
  rfl

end Process

/-- What is read of a program once it has been started. -/
theorem exchange_of_started {launch : Launcher} {command : CommandLine} {process : Process}
    (hstart : launch command = .ok process) (limits : Limits) (input : Json) :
    launch.exchange command limits input =
      (process.finish limits (Bytes.ofText input.compact) >>= fun ended =>
        (Json.read ended.output).mapError .badOutput) := by
  rw [Launcher.exchange, hstart]
  rfl

theorem exchange_greatest {launch : Launcher} {command : CommandLine} {process : Process}
    (hlimit : limit + 1 = 2 ^ 64) (hstart : launch command = .ok process) (timeout : Duration)
    (input : Json) : launch.exchange command ⟨timeout, limit⟩ input = .error .overflow := by
  rw [exchange_of_started hstart, Process.finish_greatest hlimit]
  rfl

/-- A stream is taken for what is on it exactly up to the limit, under every limit but the
greatest one, under which nothing is read and the program breaks off. So the output of a
program that keeps within the limit on both of its streams is read as it is, and not at all
under the greatest limit. -/
theorem output_exact_unless_greatest (hlimit : limit < 2 ^ 64) :
    (∀ content, readCapped content limit =
      if limit + 1 = 2 ^ 64 then .error .overflow
      else if content.length ≤ limit then .ok content else .error (.tooLarge limit)) ∧
    ∀ (launch : Launcher) (command : CommandLine) (timeout : Duration) (input : Json)
        (process : Process), launch command = .ok process →
      let progress := process timeout ⟨Bytes.ofText input.compact, true⟩
      (progress.status.isSome → progress.output.length ≤ limit → progress.errors.length ≤ limit →
        limit + 1 < 2 ^ 64 → launch.exchange command ⟨timeout, limit⟩ input =
          (Json.read progress.output).mapError .badOutput) ∧
      (limit + 1 < 2 ^ 64 → limit < progress.output.length ∨ limit < progress.errors.length →
        launch.exchange command ⟨timeout, limit⟩ input = .error (.tooLarge limit)) ∧
      (limit + 1 = 2 ^ 64 →
        launch.exchange command ⟨timeout, limit⟩ input = .error .overflow) := by
  refine ⟨fun content => ?_, fun launch command timeout input process hstart => ?_⟩
  · split
    case isTrue hgreatest => exact readCapped_greatest hgreatest content
    case isFalse hless => exact readCapped_of_lt (by omega) content
  refine ⟨fun hended houtput herrors hless => ?_, fun hless hlong => ?_, fun hgreatest => ?_⟩
  · obtain ⟨status, hstatus⟩ := Option.isSome_iff_exists.1 hended
    rw [exchange_of_started hstart, Process.finish_of_le hless houtput herrors hstatus]
    rfl
  · rw [exchange_of_started hstart, Process.finish_of_lt hless hlong]
    rfl
  · exact exchange_greatest hgreatest hstart timeout input

def braces : Launcher := fun _ => .ok fun _ _ => ⟨[123, 125], [], some (.exited 0), false⟩

theorem braces_at_limit :
    braces ⟨"solc", [], []⟩ = .ok (fun _ _ => ⟨[123, 125], [], some (.exited 0), false⟩) ∧
      braces.exchange ⟨"solc", [], []⟩ ⟨.ofSeconds 1, 2⟩ .null =
        (Json.read [123, 125]).mapError .badOutput ∧
      braces.exchange ⟨"solc", [], []⟩ ⟨.ofSeconds 1, 1⟩ .null = .error (.tooLarge 1) := by
  refine ⟨rfl, ?_, ?_⟩
  · exact ((output_exact_unless_greatest (by decide)).2 braces _ (.ofSeconds 1) .null _ rfl).1
      rfl (by decide) (by decide) (by decide)
  · exact ((output_exact_unless_greatest (by decide)).2 braces _ (.ofSeconds 1) .null _ rfl).2.1
      (by decide) (.inl (by decide))

theorem braces_lost_under_greatest :
    ([123, 125] : Bytes).length ≤ 2 ^ 64 - 1 ∧
      readCapped [123, 125] (2 ^ 64 - 1) ≠ .ok [123, 125] ∧
      Json.read [123, 125] = .ok (.object []) ∧
      braces.exchange ⟨"solc", [], []⟩ ⟨.ofSeconds 1, 2 ^ 64 - 1⟩ .null =
        .error .overflow := by
  have hgreatest : 2 ^ 64 - 1 + 1 = 2 ^ 64 := by decide
  refine ⟨by decide, ?_, ?_, ?_⟩
  · rw [readCapped_greatest hgreatest]
    exact nofun
  · rw [Json.read, Json.readDocument, Json.readFront, Json.run_want rfl, Json.run_end]
    rfl
  · exact exchange_greatest hgreatest rfl _ _

end Execution

end Provenance
