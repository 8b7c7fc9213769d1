import Provenance.Execution.Portable
import Provenance.Proofs.Json.Records
import Provenance.Proofs.Text.Decimal
import Provenance.Runner.Settings

/-!
The limits of a worker. They are written into its variables and read back there. Settings
give a time limit in seconds and the variable in milliseconds, both as words of sixty-four
bits, so the longest limits are too large to be read back and give way to the standard one.
-/

namespace Provenance

namespace Execution

/-- A time limit of whole seconds and a limit on the output, each given by a word. -/
structure Limits.InWords (limits : Limits) : Prop where
  timeout : ∃ seconds < 2 ^ 64, limits.timeout = .ofSeconds seconds
  maxOutput : limits.maxOutput < 2 ^ 64

namespace WorkerCommand

def received (worker : WorkerCommand) (limits : Limits) : Limits :=
  let environment := worker.environment limits
  limitsIn (environment.lookup timeoutName) (environment.lookup maxOutputName)

theorem numberIn_toString (n : Nat) :
    numberIn (some (toString n)) = if n < 2 ^ 64 then some n else none := by
  have hdigits : (toString n).toList = Nat.toDigits 10 n := Nat.toList_repr
  change (Unsigned.parse (toString n).toList).toOption = _
  rw [hdigits]
  cases h : Unsigned.parse (Nat.toDigits 10 n) with
  | ok m =>
    obtain ⟨rfl, hfits⟩ := Unsigned.parse_toDigits_eq_ok_iff.1 h
    rw [if_pos hfits]
    rfl
  | error fault =>
    have hlarge : ¬ n < 2 ^ 64 := by
      intro hfits
      cases h.symm.trans (Unsigned.parse_toDigits_eq_ok_iff.2 ⟨rfl, hfits⟩)
    rw [if_neg hlarge]
    rfl

theorem received_eq (worker : WorkerCommand) (limits : Limits) :
    worker.received limits = limitsIn (some (toString limits.timeout.milliseconds))
      (some (toString limits.maxOutput)) := rfl

theorem milliseconds_ofSeconds (seconds : Nat) :
    (Duration.ofSeconds seconds).milliseconds = 1000 * seconds := by
  simp only [Duration.milliseconds, Duration.ofSeconds]
  omega

theorem ofMilliseconds_seconds (seconds : Nat) :
    Duration.ofMilliseconds (1000 * seconds) = .ofSeconds seconds := by
  simp only [Duration.ofMilliseconds, Duration.ofSeconds, Duration.mk.injEq]
  omega

theorem received_of_long (worker : WorkerCommand) {limits : Limits}
    (hmaxOutput : limits.maxOutput < 2 ^ 64) (hlong : 2 ^ 64 ≤ limits.timeout.milliseconds) :
    worker.received limits = ⟨Limits.standard.timeout, limits.maxOutput⟩ := by
  rw [received_eq, limitsIn, numberIn_toString, numberIn_toString, if_neg (Nat.not_lt.2 hlong),
    if_pos hmaxOutput]
  rfl

/-- The standard time limit is no longer than a word of milliseconds, so it is never taken
for a limit that is. -/
theorem received_eq_iff (worker : WorkerCommand) {limits : Limits} (h : limits.InWords) :
    worker.received limits = limits ↔ limits.timeout.milliseconds < 2 ^ 64 := by
  obtain ⟨⟨seconds, -, hseconds⟩, hmaxOutput⟩ := h
  obtain ⟨timeout, maxOutput⟩ := limits
  obtain rfl : timeout = .ofSeconds seconds := hseconds
  by_cases hfits : (Duration.ofSeconds seconds).milliseconds < 2 ^ 64
  · refine iff_of_true ?_ hfits
    rw [received_eq, limitsIn, numberIn_toString, numberIn_toString, if_pos hfits,
      if_pos hmaxOutput, milliseconds_ofSeconds]
    simp only [Option.map_some, Option.getD_some, ofMilliseconds_seconds]
  · refine iff_of_false (fun heq => hfits ?_) hfits
    rw [received_of_long worker hmaxOutput (Nat.not_lt.1 hfits)] at heq
    have hstandard : Limits.standard.timeout = .ofSeconds seconds := congrArg Limits.timeout heq
    rw [← hstandard]
    decide

end WorkerCommand

end Execution

open Shape

def KeepsWords (values : Values) : Prop :=
  ∀ expected, Gives (values.unsigned expected) (· < 2 ^ 64)

theorem gives_unsigned (expected : String) : Gives (unsigned expected) (· < 2 ^ 64) := by
  intro json n h
  obtain ⟨value, hvalue, rfl⟩ := exists_of_map_eq_ok h
  unfold integer at hvalue
  split at hvalue
  · split at hvalue
    case isTrue hfits =>
      rw [← Except.ok.inj hvalue]
      have hfits := of_decide_eq_true hfits
      omega
    case isFalse => cases hvalue
  · cases hvalue

/-- Texts are read as words, and what is no whole number is cut to one. -/
theorem keepsWords_lenient : KeepsWords lenientValues := by
  intro expected json n h
  change Lenient.unsigned expected json = .ok n at h
  unfold Lenient.unsigned at h
  split at h
  · rename_i value
    rw [← Except.ok.inj h]
    cases value <;> decide
  · split at h
    · rw [← Except.ok.inj h]
      omega
    · exact gives_unsigned expected _ _ h
  · dsimp only at h
    repeat' split at h
    · rw [← Except.ok.inj h]
      decide
    · rw [← Except.ok.inj h]
      decide
    · rename_i hparse
      rw [← Except.ok.inj h]
      exact Unsigned.lt_of_parse_eq_ok hparse
    · cases h
  · cases h

theorem gives_seconds {values : Values} (hvalues : KeepsWords values) :
    Gives (CompilerSettings.seconds values) fun d =>
      ∃ seconds < 2 ^ 64, d = .ofSeconds seconds := by
  intro json d h
  obtain ⟨seconds, hseconds, rfl⟩ := exists_of_map_eq_ok h
  exact ⟨seconds, hvalues "u64" _ _ hseconds, rfl⟩

namespace CompilerSettings

theorem inWords_standard (h : Host) : (standard h).limits.InWords where
  timeout := ⟨120, by decide, rfl⟩
  maxOutput := by
    change Execution.Limits.standard.maxOutput < 2 ^ 64
    decide

theorem gives_inWords {values : Values} (hvalues : KeepsWords values) (h : Host) :
    Gives (decodeBy values h) fun settings => settings.limits.InWords := by
  have habsent := inWords_standard h
  -- From the last field to the first, of which two matter.
  refine gives_record ?_
  refine Fields.gives_seq (Fields.gives_any _) (Fields.gives_seq (Fields.gives_any _) ?_)
  refine Fields.gives_seq (Fields.gives_defaulted (hvalues "usize") habsent.maxOutput) ?_
  refine Fields.gives_seq (Fields.gives_defaulted (gives_seconds hvalues) habsent.timeout) ?_
  refine Fields.gives_seq (Fields.gives_any _) (Fields.gives_seq (Fields.gives_any _) ?_)
  refine Fields.gives_seq (Fields.gives_any _) (Fields.gives_seq (Fields.gives_any _) ?_)
  refine Fields.gives_map (Fields.gives_of_forall _ ?_)
  intro directory host _ listUrls _ useNative _ mode _ timeout htimeout maxOutput hmaxOutput
  exact fun _ _ _ _ => ⟨htimeout, hmaxOutput⟩

end CompilerSettings

theorem Settings.gives_inWords {values : Values} (hvalues : KeepsWords values) (h : Host) :
    Gives (decodeBy values h) fun settings => settings.compilers.limits.InWords := by
  have hcompilers := CompilerSettings.gives_inWords hvalues h
  have habsent := CompilerSettings.inWords_standard h
  refine gives_record ?_
  refine Fields.gives_seq (Fields.gives_any _) (Fields.gives_seq (Fields.gives_any _) ?_)
  refine Fields.gives_seq (Fields.gives_any _) (Fields.gives_seq (Fields.gives_any _) ?_)
  refine Fields.gives_seq (Fields.gives_defaulted hcompilers habsent) ?_
  refine Fields.gives_map (Fields.gives_of_forall _ ?_)
  exact fun _ _ hlimits _ _ _ _ _ _ _ _ => hlimits

open Execution in
/-- A worker has the limits of the one that it works for, and its compiler runs under them,
exactly if the time limit is less than `2 ^ 64` milliseconds. A longer one gives way to the
standard one; the limit on the output always arrives. All settings give limits of this form. -/
theorem limits_arrive_iff (worker : WorkerCommand) :
    (∀ limits : Limits, limits.InWords →
      (worker.received limits = limits ↔ limits.timeout.milliseconds < 2 ^ 64) ∧
      (2 ^ 64 ≤ limits.timeout.milliseconds →
        worker.received limits = ⟨Limits.standard.timeout, limits.maxOutput⟩) ∧
      ∀ (launch : Launcher) (compiler : String) (payload : Json),
        compileWithRuntime launch (worker.environment limits) compiler payload =
          launch.exchange
            ⟨worker.runtime, ["-e", compilerScript, compiler], worker.environment limits⟩
            (worker.received limits) payload) ∧
    ∀ (h : Host) (document : Json) (settings : Settings),
      Settings.decodeBy lenientValues h document = .ok settings →
        settings.compilers.pool.policy.limits.InWords := by
  refine ⟨fun limits hwords => ?_, fun h document settings hsettings => ?_⟩
  · exact ⟨worker.received_eq_iff hwords, worker.received_of_long hwords.maxOutput,
      fun launch compiler payload => rfl⟩
  · exact Settings.gives_inWords keepsWords_lenient h _ _ hsettings

def timeLimited (seconds : Nat) : Json :=
  .object [("compilers", .object [("timeout", .nat seconds)])]

open Execution in
theorem half_minute_arrives :
    (⟨.ofSeconds 30, 2 ^ 64 - 1⟩ : Limits).InWords ∧
      (⟨none, "node"⟩ : WorkerCommand).received ⟨.ofSeconds 30, 2 ^ 64 - 1⟩ =
        ⟨.ofSeconds 30, 2 ^ 64 - 1⟩ ∧
      (⟨.ofSeconds (2 ^ 64 - 1), 5⟩ : Limits).InWords ∧
      2 ^ 64 ≤ (Duration.ofSeconds (2 ^ 64 - 1)).milliseconds ∧
      (⟨none, "node"⟩ : WorkerCommand).received ⟨.ofSeconds (2 ^ 64 - 1), 5⟩ =
        ⟨.ofSeconds 120, 5⟩ ∧
      ∃ settings, Settings.decodeBy lenientValues ⟨4, "/tmp"⟩ (timeLimited 30) = .ok settings ∧
        settings.compilers.pool.policy.limits.InWords := by
  have hshort : (⟨.ofSeconds 30, 2 ^ 64 - 1⟩ : Limits).InWords :=
    ⟨⟨30, by decide, rfl⟩, by decide⟩
  have hlong : (⟨.ofSeconds (2 ^ 64 - 1), 5⟩ : Limits).InWords :=
    ⟨⟨2 ^ 64 - 1, by decide, rfl⟩, by decide⟩
  have hoverflow : 2 ^ 64 ≤ (Duration.ofSeconds (2 ^ 64 - 1)).milliseconds := by decide
  obtain ⟨settings, hsettings⟩ : ∃ settings,
    Settings.decodeBy lenientValues ⟨4, "/tmp"⟩ (timeLimited 30) = .ok settings := ⟨_, rfl⟩
  obtain ⟨harrives, hgiven⟩ := limits_arrive_iff ⟨none, "node"⟩
  exact ⟨hshort, (harrives _ hshort).1.2 (by decide), hlong, hoverflow,
    (harrives _ hlong).2.1 hoverflow, settings, hsettings, hgiven _ _ _ hsettings⟩

open Execution in
/-- The shortest time limit that is too long. -/
theorem long_limit_lost :
    ∃ settings, Settings.decodeBy lenientValues ⟨4, "/tmp"⟩ (timeLimited 18446744073709552) =
        .ok settings ∧
      let policy := settings.compilers.pool.policy
      policy.limits.timeout = .ofSeconds 18446744073709552 ∧
        (policy.worker.received policy.limits).timeout = .ofSeconds 120 ∧
        policy.worker.received policy.limits ≠ policy.limits := by
  refine ⟨_, rfl, rfl, ?_, ?_⟩
  · rw [WorkerCommand.received_of_long _ (by decide) (by decide)]
    rfl
  · rw [WorkerCommand.received_of_long _ (by decide) (by decide)]
    intro h
    have htimeout := congrArg (fun limits : Limits => limits.timeout.nanoseconds) h
    revert htimeout
    decide

end Provenance
