import Provenance.Proofs.Pipeline.Refinement

/-!
A second run over the contracts of a run. What was verified has its metadata now and
is left alone, as is what had it before, and all else comes to what it came to. The
second run writes nothing, and no compiler and no node is asked about a contract
that is left alone. The order in which tasks end may be another one, so it can be
that the window of the second run overflows and that of the first did not.
-/

namespace Provenance

/-- Whether a contract has its metadata after this outcome, once it is saved. -/
def ItemOutcome.isKept : ItemOutcome → Bool
  | .jumped => true
  | .verified _ _ => true
  | _ => false

def ItemOutcome.again : ItemOutcome → ItemOutcome
  | .verified _ _ => .jumped
  | outcome => outcome

def Summary.again (s : Summary) : Summary :=
  { s with verified := 0, jumped := s.jumped + s.verified }

theorem ItemOutcome.complaint?_again (outcome : ItemOutcome) :
    outcome.again.complaint? = outcome.complaint? := by
  cases outcome <;> rfl

theorem ItemOutcome.isOverflow_again (outcome : ItemOutcome) :
    outcome.again.isOverflow = outcome.isOverflow := by
  cases outcome <;> rfl

namespace Pipeline

open Queue

variable {σ μ κ ν : Type} {o : Outlook σ μ κ} {c c' : Collaborators σ}
  {settings : PipelineSettings} {ids : List ContractIdentity} {id : ContractIdentity}
  {world world' : σ}

theorem attestation?_again (settings : PipelineSettings) (outcome : ItemOutcome) :
    attestation? settings outcome.again = none := by
  cases outcome <;> rfl

theorem tally_again (outcomes : List ItemOutcome) :
    tally (outcomes.map ItemOutcome.again) = (tally outcomes).again := by
  induction outcomes using List.reverseRec with
  | nil => rfl
  | append_singleton outcomes outcome ih =>
    rw [List.map_append, List.map_singleton, ← record_tally, ← record_tally, ih]
    cases outcome <;> simp [ItemOutcome.again, Summary.record, Summary.again, Nat.add_comm,
      Nat.add_left_comm]

/-- A store that keeps what is saved: saving succeeds, and then the contract has its
metadata and is configured as before. -/
structure StoreKeeps (c : Collaborators σ) (world : σ) (ids : List ContractIdentity) : Prop where
  saves : ∀ id ∈ ids, ∀ attestation, ((c.save id attestation).run world).1 = .ok ()
  config : ∀ id ∈ ids, ∀ attestation,
    ((c.config id).run ((c.save id attestation).run world).2).1 = ((c.config id).run world).1
  hasMetadata : ∀ id ∈ ids, ∀ attestation, ((c.hasMetadata id).run world).1 = .ok false →
    ((c.hasMetadata id).run ((c.save id attestation).run world).2).1 = .ok true

def Jumps (c : Collaborators σ) (world : σ) (id : ContractIdentity) : Prop :=
  ∃ config, ((c.config id).run world).1 = .ok config ∧ config.skip = false ∧
    ((c.hasMetadata id).run world).1 = .ok true

theorem Jumps.of_saved_eq (hc : o.Local c) (h : Jumps c world id)
    (hsaved : o.saved id world' = o.saved id world) : Jumps c world' id := by
  obtain ⟨config, hconfig, hskip, hkept⟩ := h
  refine ⟨config, ?_, hskip, ?_⟩
  · rw [(hc.config id).answer world' world hsaved, hconfig]
  · rw [(hc.hasMetadata id).answer world' world hsaved, hkept]

theorem leads_lift {α β : Type} {action : StateM σ β} (haction : o.Reads id action)
    {next : β → Calls σ α} {answer : β} {value : α} (hanswer : (action.run world).1 = answer)
    (hnext : o.Leads id (o.saved id world) value (next answer)) :
    o.Leads id (o.saved id world) value (.lift action next) := by
  refine ⟨haction.same, fun w hw => ?_⟩
  change o.Leads id _ value (next (action.run w).1)
  rw [haction.answer w world hw, hanswer]
  exact hnext

/-- The work on such a contract ends when its metadata is found, with no other call. -/
theorem leads_of_jumps (hconfig : o.Reads id (c.config id))
    (hmetadata : o.Reads id (c.hasMetadata id)) (h : Jumps c world id) :
    o.Leads id (o.saved id world) .jumped (verifying c false id) := by
  obtain ⟨config, hanswer, hskip, hkept⟩ := h
  rw [verifying, preparing, Calls.bind_lift]
  refine leads_lift hconfig hanswer ?_
  simp only [hskip, Bool.false_eq_true, if_false]
  rw [Calls.bind_lift]
  exact leads_lift hmetadata hkept rfl

theorem outcomeIn_of_jumps (hc : o.Local c) (hforce : settings.force = false)
    (h : Jumps c world id) : outcomeIn c settings world id = .jumped := by
  have hvalue := ((leads_of_jumps (hc.config id) (hc.hasMetadata id) h).run rfl).1
  rwa [run_verifying, ← hforce] at hvalue

theorem run_lift_run {α β : Type} (action : StateM σ β) (next : β → Calls σ α) (w : σ) :
    (Calls.lift action next).run.run w =
      (next (action.run w).1).run.run (action.run w).2 := rfl

theorem concluding_ne_jumped (c : Collaborators σ) (id : ContractIdentity)
    (config : ContractConfig) (compiled : Except CompilationFault Contracts) (w : σ) :
    ((concluding c id config compiled).run.run w).1 ≠ .jumped := by
  unfold concluding
  cases compiled with
  | error cause => rintro ⟨⟩
  | ok contracts =>
    dsimp only
    cases Candidate.find contracts config.name config.sourcePath with
    | error cause => rintro ⟨⟩
    | ok candidate =>
      dsimp only
      rw [run_lift_run]
      cases ((c.code id).run w).1 with
      | error text => rintro ⟨⟩
      | ok code =>
        dsimp only
        cases candidate.judge id code with
        | error cause => rintro ⟨⟩
        | ok verdict =>
          change judge config.compiler verdict ≠ _
          unfold judge
          split <;> rintro ⟨⟩

theorem readying_ne_jumped (c : Collaborators σ) (id : ContractIdentity)
    (config : ContractConfig) (w : σ) :
    (((readying c id config).bind (compiling c id)).run.run w).1 ≠ .jumped := by
  rw [readying, Calls.bind_lift, run_lift_run]
  cases ((c.input id).run w).1 with
  | error text => rintro ⟨⟩
  | ok input =>
    dsimp only
    rw [Calls.bind_lift, run_lift_run]
    exact concluding_ne_jumped c id config _ _

/-- With force no contract is left alone. -/
theorem outcomeIn_ne_jumped (hforce : settings.force = true) (id : ContractIdentity) :
    outcomeIn c settings world id ≠ .jumped := by
  rw [outcomeIn, hforce, ← run_verifying, verifying, preparing, Calls.bind_lift, run_lift_run]
  cases ((c.config id).run world).1 with
  | error text => rintro ⟨⟩
  | ok config =>
    dsimp only
    by_cases hskip : config.skip = true
    · rw [if_pos hskip]
      rintro ⟨⟩
    · rw [if_neg hskip, if_pos rfl]
      exact readying_ne_jumped c id config _

/-- Whether a contract has its metadata decides whether it is left alone, and nothing else. -/
theorem outcomeIn_unforced (hc : o.Local c) (hforce : settings.force = false)
    {config : ContractConfig} (hconfig : ((c.config id).run world).1 = .ok config)
    (hskip : config.skip = false) : outcomeIn c settings world id =
      match ((c.hasMetadata id).run world).1 with
      | .ok true => .jumped
      | .ok false => outcomeIn c { settings with force := true } world id
      | .error text => .failed (.store text) := by
  have hsame := (hc.config id).same world
  have hanswer := (hc.hasMetadata id).answer _ world (hsame.saved id)
  simp only [outcomeIn, hforce, ← run_verifying]
  simp only [verifying, preparing, Calls.bind_lift, run_lift_run, hconfig, hskip,
    Bool.false_eq_true, if_false, if_true]
  rw [hanswer]
  cases ((c.hasMetadata id).run world).1 with
  | error text => rfl
  | ok kept =>
    cases kept with
    | true => rfl
    | false =>
      -- The look at the metadata lies between, and changes nothing that can be seen.
      have hbetween := (hc.hasMetadata id).same ((c.config id).run world).2
      exact ((Outlook.steady_readying hc config _ rfl).run (hbetween.saved id)).1

/-- A contract that is neither excluded nor fails has a configuration. -/
theorem exists_config_of_outcomeIn (hskipped : outcomeIn c settings world id ≠ .skipped)
    (hfailed : ∀ cause, outcomeIn c settings world id ≠ .failed cause) :
    ∃ config, ((c.config id).run world).1 = .ok config ∧ config.skip = false := by
  rw [outcomeIn, ← run_verifying, verifying, preparing, Calls.bind_lift, run_lift_run]
    at hskipped
  simp only [outcomeIn, ← run_verifying, verifying, preparing, Calls.bind_lift, run_lift_run]
    at hfailed
  cases hconfig : ((c.config id).run world).1 with
  | error text =>
    rw [hconfig] at hfailed
    exact absurd rfl (hfailed (.store text))
  | ok config =>
    rw [hconfig] at hskipped
    refine ⟨config, rfl, Bool.eq_false_iff.2 fun hskip => hskipped ?_⟩
    simp only [if_pos hskip]
    rfl

/-- A contract that has its metadata after the outcome had been looked up before. -/
theorem exists_config_of_isKept (hc : o.Local c) (hforce : settings.force = false)
    (h : (outcomeIn c settings world id).isKept = true) :
    ∃ config kept, ((c.config id).run world).1 = .ok config ∧ config.skip = false ∧
      ((c.hasMetadata id).run world).1 = .ok kept ∧
      (outcomeIn c settings world id = .jumped → kept = true) := by
  have hkept {outcome : ItemOutcome} (hother : outcome.isKept = false) :
      outcomeIn c settings world id ≠ outcome := by
    rintro rfl
    cases hother.symm.trans h
  obtain ⟨config, hconfig, hskip⟩ := exists_config_of_outcomeIn (hkept rfl) fun _ => hkept rfl
  have houtcome := outcomeIn_unforced hc hforce hconfig hskip
  cases hanswer : ((c.hasMetadata id).run world).1 with
  | error text =>
    rw [hanswer] at houtcome
    exact absurd houtcome (hkept rfl)
  | ok kept =>
    refine ⟨config, kept, hconfig, hskip, rfl, fun hjumped => ?_⟩
    cases kept with
    | true => rfl
    | false =>
      rw [hanswer] at houtcome
      exact absurd (houtcome.symm.trans hjumped) (outcomeIn_ne_jumped rfl id)

/-- What is saved of a contract changes only if it is verified. -/
theorem settle_of_attestation?_eq_none (c : Collaborators σ) {outcome : ItemOutcome}
    (h : attestation? settings outcome = none) (w : σ) :
    (settle c settings id outcome).run w = (outcome, w) := by
  rw [run_settle, h]

/-- A contract that was settled comes to the outcome again, but that it is left alone
if it was verified. -/
theorem outcomeIn_again (hc : o.Local c) (hsave : settings.saveMetadata = true)
    (hforce : settings.force = false) (hkeeps : StoreKeeps c world ids) (hid : id ∈ ids)
    (hsaved : o.saved id world' =
      o.saved id ((settle c settings id (outcomeIn c settings world id)).run world).2) :
    outcomeIn c settings world' id = (outcomeIn c settings world id).again ∧
      ((outcomeIn c settings world id).isKept = true → Jumps c world' id) := by
  have hlooked := @exists_config_of_isKept _ _ _ o c settings id world hc hforce
  have hunsaved (hnone : attestation? settings (outcomeIn c settings world id) = none) :
      o.saved id world' = o.saved id world := by
    rwa [settle_of_attestation?_eq_none c hnone] at hsaved
  have hsame (hnone : attestation? settings (outcomeIn c settings world id) = none) :
      outcomeIn c settings world' id = outcomeIn c settings world id :=
    (hc.verifyContract settings.force id).answer world' world (hunsaved hnone)
  cases houtcome : outcomeIn c settings world id with
  | skipped =>
    rw [houtcome] at hsame
    exact ⟨hsame rfl, nofun⟩
  | unverified verdict =>
    rw [houtcome] at hsame
    exact ⟨hsame rfl, nofun⟩
  | failed cause =>
    rw [houtcome] at hsame
    exact ⟨hsame rfl, nofun⟩
  | jumped =>
    rw [houtcome] at hlooked hsame hunsaved
    obtain ⟨config, kept, hconfig, hskip, hkept, hjumped⟩ := hlooked rfl
    obtain rfl := hjumped rfl
    have hjumps : Jumps c world id := ⟨config, hconfig, hskip, hkept⟩
    exact ⟨hsame rfl, fun _ => hjumps.of_saved_eq hc (hunsaved rfl)⟩
  | verified verdict attestation =>
    have hattested : attestation? settings (outcomeIn c settings world id) = some attestation := by
      rw [houtcome, attestation?, if_pos hsave]
    rw [run_settle, hattested] at hsaved
    rw [houtcome] at hlooked
    obtain ⟨config, kept, hconfig, hskip, hkept, -⟩ := hlooked rfl
    cases kept with
    | true =>
      have hjumped := outcomeIn_of_jumps hc hforce ⟨config, hconfig, hskip, hkept⟩
      rw [houtcome] at hjumped
      cases hjumped
    | false =>
      have hjumps : Jumps c world' id := by
        refine Jumps.of_saved_eq hc ⟨config, ?_, hskip, ?_⟩ hsaved
        · rw [hkeeps.config id hid, hconfig]
        · exact hkeeps.hasMetadata id hid attestation hkept
      exact ⟨outcomeIn_of_jumps hc hforce hjumps, fun _ => hjumps⟩

/-- What is known of who was asked about a contract. It changes only when the source of
the contract is read, when it is compiled and when its code is fetched. -/
structure Asks (c : Collaborators σ) (id : ContractIdentity) (asked : σ → ν) : Prop where
  config : ∀ other w, asked ((c.config other).run w).2 = asked w
  hasMetadata : ∀ other w, asked ((c.hasMetadata other).run w).2 = asked w
  input : ∀ other w, other ≠ id → asked ((c.input other).run w).2 = asked w
  compile : ∀ other compiler input w, other ≠ id →
    asked ((c.compile other compiler input).run w).2 = asked w
  finish : ∀ other compiler input w v, other ≠ id →
    asked (((c.compile other compiler input).run w).1.finish.run v).2 = asked v
  code : ∀ other w, other ≠ id → asked ((c.code other).run w).2 = asked w
  save : ∀ other attestation w, asked ((c.save other attestation).run w).2 = asked w

def sparing (c : Collaborators σ) (id : ContractIdentity) : Collaborators σ :=
  { c with
    input := fun other => if other = id then pure (.error "") else c.input other
    compile := fun other compiler input =>
      if other = id then pure ⟨0, pure (.error (.notFound compiler))⟩
      else c.compile other compiler input
    code := fun other => if other = id then pure (.error "") else c.code other }

def Outlook.watching (o : Outlook σ μ κ) (asked : σ → ν) : Outlook σ μ (κ × ν) where
  saved := o.saved
  journal w := (o.journal w, asked w)
  enter journal id attestation := (o.enter journal.1 id attestation, journal.2)

section Sparing

variable {asked : σ → ν} {spared : ContractIdentity}

theorem same_watching {w w' : σ} (h : o.Same w w') (hasked : asked w = asked w') :
    (o.watching asked).Same w w' :=
  ⟨h.saved, Prod.ext h.journal hasked⟩

theorem reads_watching {α : Type} {action : StateM σ α} (h : o.Reads id action)
    (hasked : ∀ w, asked (action.run w).2 = asked w) : (o.watching asked).Reads id action :=
  ⟨h.answer, fun w => same_watching (h.same w) (hasked w)⟩

theorem reads_pure {α : Type} (value : α) : o.Reads id (pure value : StateM σ α) :=
  ⟨fun _ _ _ => rfl, fun w => .refl o w⟩

/-- Those who leave a contract alone cannot be seen to ask about it. -/
theorem Outlook.Local.watching (hc : o.Local c) (hasks : Asks c spared asked) :
    (o.watching asked).Local (sparing c spared) where
  config id := reads_watching (hc.config id) (hasks.config id)
  hasMetadata id := reads_watching (hc.hasMetadata id) (hasks.hasMetadata id)
  input id := by
    dsimp only [sparing]
    split_ifs with hspared
    · exact reads_pure _
    · exact reads_watching (hc.input id) fun w => hasks.input id w hspared
  compile id compiler input w := by
    dsimp only [sparing]
    split_ifs with hspared
    · exact .refl _ w
    · exact same_watching (hc.compile id compiler input w)
        (hasks.compile id compiler input w hspared)
  compiled id compiler input w w' v v' hw hv := by
    dsimp only [sparing]
    split_ifs with hspared
    · rfl
    · exact hc.compiled id compiler input w w' v v' hw hv
  finish id compiler input w v := by
    dsimp only [sparing]
    split_ifs with hspared
    · exact .refl _ v
    · exact same_watching (hc.finish id compiler input w v)
        (hasks.finish id compiler input w v hspared)
  code id := by
    dsimp only [sparing]
    split_ifs with hspared
    · exact reads_pure _
    · exact reads_watching (hc.code id) fun w => hasks.code id w hspared
  save := hc.save
  save_other := hc.save_other
  save_journal id attestation w :=
    Prod.ext (hc.save_journal id attestation w) (hasks.save id attestation w)

theorem verifying_sparing (hspared : id ≠ spared) (force : Bool) :
    verifying (sparing c spared) force id = verifying c force id := by
  have hreadying : readying (sparing c spared) id = readying c id := by
    funext config
    simp only [readying, sparing, if_neg hspared]
  have hconcluding : concluding (sparing c spared) id = concluding c id := by
    funext config compiled
    simp only [concluding, sparing, if_neg hspared]
  have hcompiling : compiling (sparing c spared) id = compiling c id := by
    funext prepared
    cases prepared with
    | error outcome => rfl
    | ok prepared => simp only [compiling, hconcluding]
  rw [verifying, verifying, hcompiling, preparing, preparing, hreadying]
  rfl

/-- A contract that has its metadata may as well be left alone. -/
theorem Outlook.Local.foretells_sparing (hc : o.Local c) (hasks : Asks c spared asked)
    (hforce : settings.force = false) (hjumps : Jumps c world spared) :
    Foretells (o.watching asked) (sparing c spared) c settings world where
  save := rfl
  leads id := by
    have hlocal := hc.watching hasks
    by_cases hspared : id = spared
    · subst hspared
      have hjumped : outcomeIn (sparing c id) settings world id = .jumped :=
        outcomeIn_of_jumps hlocal hforce hjumps
      rw [hjumped, hforce]
      exact leads_of_jumps (hlocal.config id) (hlocal.hasMetadata id) hjumps
    · rw [← verifying_sparing hspared]
      exact hlocal.leads settings world id

end Sparing

variable {result : Except Fault Summary} {course : Course σ}

theorem Runs.staffed {summary : Summary} (h : Runs c settings ids world result course)
    (hok : result = .ok summary) : ids = [] ∨ 0 < settings.workers := by
  have hworkers : List.replicate settings.workers () ≠ [] → 0 < settings.workers := by
    simp [Nat.pos_iff_ne_zero]
  cases h with
  | returned hreturns =>
    refine (hreturns.staffed ?_).imp_right hworkers
    rintro rfl
    cases hok
  | brokenOff => cases hok
  | clocked =>
    obtain ⟨log, hreturns | ⟨hresult, -⟩⟩ := process_ends (actors c settings) ids
      (List.replicate settings.workers ()) settings.workAheadLimit ({ world } : Course σ)
    · refine (hreturns.staffed fun hresult => ?_).imp_right hworkers
      simp only [runFor, hresult] at hok
      cases hok
    · simp only [runFor, hresult] at hok
      cases hok

/-- A run that ends well comes to what it comes to one by one, and no worker is lost. -/
theorem Runs.settles {summary : Summary} (hrun : Runs c settings ids world (.ok summary) course)
    (hc : o.Local c) (hdistinct : ids.Nodup) :
    Settles o c settings ids world (.ok summary) course ∧
      ∀ id ∈ ids, (outcomeIn c settings world id).isOverflow = false := by
  rcases (hc.foretells settings world).settles hc hdistinct (hrun.staffed rfl) hrun with
    ⟨hsettles, hsurvived⟩ | ⟨hresult, -⟩ | ⟨hresult, -⟩
  · exact ⟨hsettles, hsurvived summary rfl⟩
  · cases hresult
  · cases hresult

/-- What is known of a run that agrees with one that goes one by one. -/
theorem Outlook.Local.accounts_of_agree (hc : o.Local c) (hdistinct : ids.Nodup)
    (h : o.Agree course (oneByOne c settings 0 ids { world }).1) :
    Accounts o c settings ids world (course, (oneByOne c settings 0 ids { world }).2) := by
  have haccounts : Accounts o c settings ids world (oneByOne c settings 0 ids { world }) :=
    hc.accounts_oneByOne hdistinct
  refine ⟨haccounts.stopped, h.summary.trans haccounts.summary, fun hnone => ?_,
    h.world.journal.trans haccounts.journal, haccounts.unsaved,
    fun id => (h.world.saved id).trans (haccounts.saved id)⟩
  rw [h.summary]
  exact haccounts.total hnone

/-- What a run is known to come to, where it does so one by one. -/
theorem Settles.accounts (h : Settles o c settings ids world result course) (hc : o.Local c)
    (hdistinct : ids.Nodup) :
    ∃ fault, Accounts o c settings ids world (course, fault) ∧
      result = match fault with
        | none => .ok course.summary
        | some fault => .error fault :=
  ⟨_, hc.accounts_of_agree hdistinct h.1, h.2⟩

/-- Contracts settle to what they come to where nothing is to be saved, or saving
succeeds. -/
theorem settledIn_eq_outcomeIn (hsaves : ∀ attestation,
    attestation? settings (outcomeIn c settings world id) = some attestation →
      ((c.save id attestation).run world).1 = .ok ()) :
    settledIn c settings world id = outcomeIn c settings world id := by
  rw [settledIn, run_settle]
  cases hsave : attestation? settings (outcomeIn c settings world id) with
  | none => rfl
  | some attestation =>
    dsimp only
    rw [hsaves attestation hsave]

structure Completed (o : Outlook σ μ κ) (c : Collaborators σ) (settings : PipelineSettings)
    (front : List ContractIdentity) (world : σ) (course : Course σ) : Prop where
  summary : course.summary = tally (front.map (outcomeIn c settings world))
  unstopped : ∀ id ∈ front, stopIn c settings world id = none
  settled : ∀ id ∈ front, settledIn c settings world id = outcomeIn c settings world id
  again : ∀ id ∈ front,
    outcomeIn c settings course.world id = (outcomeIn c settings world id).again
  jumps : ∀ report ∈ course.reports, report.outcome.isKept = true → Jumps c course.world report.id

theorem Settles.completed {summary : Summary} (h : Settles o c settings ids world result course)
    (hok : result = .ok summary) (hc : o.Local c) (hdistinct : ids.Nodup)
    (hsave : settings.saveMetadata = true) (hforce : settings.force = false)
    (hkeeps : StoreKeeps c world ids) : Completed o c settings ids world course := by
  obtain ⟨fault, haccounts, hresult⟩ := h.accounts hc hdistinct
  have hnone : fault = none := by
    cases fault with
    | none => rfl
    | some fault => cases hresult.symm.trans hok
  have hstopped := haccounts.stopped
  rw [hnone] at hstopped
  have hunstopped := List.findSome?_eq_none_iff.1 hstopped.symm
  have htaken : takenIn c settings world ids = ids :=
    upTo_eq_self fun id hid => by rw [hunstopped id hid]; rfl
  have hsettled (id : ContractIdentity) (hid : id ∈ ids) :
      settledIn c settings world id = outcomeIn c settings world id :=
    settledIn_eq_outcomeIn fun attestation _ => hkeeps.saves id hid attestation
  have hsaved (id : ContractIdentity) (hid : id ∈ ids) : o.saved id course.world =
      o.saved id ((settle c settings id (outcomeIn c settings world id)).run world).2 := by
    rw [haccounts.saved id, htaken, if_pos hid]
  have hagain (id : ContractIdentity) (hid : id ∈ ids) :=
    outcomeIn_again hc hsave hforce hkeeps hid (hsaved id hid)
  refine ⟨?_, hunstopped, hsettled, fun id hid => (hagain id hid).1, ?_⟩
  · rw [haccounts.summary, htaken, List.map_congr_left hsettled]
  · intro report hreport hkept
    rw [h.1.reports] at hreport
    obtain ⟨hid, houtcome⟩ := (hc.oneByOne_reports settings hdistinct 0 { world }
      (fun _ _ => rfl) hreport).resolve_left nofun
    rw [houtcome] at hkept
    exact (hagain report.id (Outlook.mem_of_mem_upTo hid)).2 hkept

/-- A run that adds nothing to a run with the given counts that left the given world.
What was verified is left alone and counted so, and all else is counted as before. -/
structure Resumes (o : Outlook σ μ κ) (summary : Summary) (world : σ)
    (result : Except Fault Summary) (later : Course σ) : Prop where
  result : result = .ok summary.again
  world : o.Same later.world world

namespace Completed

variable {front : List ContractIdentity} {later : Course σ}

theorem attestation?_eq_none (h : Completed o c settings front world course) (hid : id ∈ front) :
    attestation? settings (outcomeIn c settings course.world id) = none := by
  rw [h.again id hid, attestation?_again]

theorem settledIn_again (h : Completed o c settings front world course) (hid : id ∈ front) :
    settledIn c settings course.world id = (outcomeIn c settings world id).again := by
  rw [settledIn, settle_of_attestation?_eq_none c (h.attestation?_eq_none hid), h.again id hid]

theorem stopIn_again (h : Completed o c settings front world course) (hid : id ∈ front) :
    stopIn c settings course.world id = none := by
  have hunstopped := h.unstopped id hid
  rw [stopIn, h.settled id hid] at hunstopped
  rw [stopIn, h.settledIn_again hid, ItemOutcome.complaint?_again]
  exact hunstopped

/-- A run that takes contracts of a completed run again adds nothing. -/
theorem resumes (h : Completed o c settings ids world course) (hc : o.Local c)
    {front : List ContractIdentity} (hfront : front.Sublist ids) (hdistinct : front.Nodup)
    (hsettles : Settles o c settings front course.world result later) :
    Resumes o (tally (front.map (outcomeIn c settings world))) course.world result later := by
  have hmem {id : ContractIdentity} (hid : id ∈ front) : id ∈ ids := hfront.subset hid
  obtain ⟨fault, haccounts, hresult⟩ := hsettles.accounts hc hdistinct
  have htaken : takenIn c settings course.world front = front :=
    upTo_eq_self fun id hid => by rw [h.stopIn_again (hmem hid)]; rfl
  have hfault : fault = none :=
    haccounts.stopped.trans (List.findSome?_eq_none_iff.2 fun id hid => h.stopIn_again (hmem hid))
  have hsummary : later.summary = (tally (front.map (outcomeIn c settings world))).again := by
    rw [haccounts.summary, htaken,
      List.map_congr_left fun id hid => h.settledIn_again (hmem hid), ← tally_again, List.map_map]
    rfl
  refine ⟨?_, fun id => ?_, ?_⟩
  · rw [hresult, hfault, ← hsummary]
  · rw [haccounts.saved id, htaken]
    split_ifs with hid
    · rw [settle_of_attestation?_eq_none c (h.attestation?_eq_none (hmem hid))]
    · rfl
  · have hnothing : savesIn c settings course.world front = [] := by
      rw [savesIn, htaken]
      refine List.filterMap_eq_nil_iff.2 fun id hid => ?_
      rw [h.attestation?_eq_none (hmem hid)]
      rfl
    rw [haccounts.journal, hnothing]
    rfl

end Completed

/-- Nobody is asked about a contract that has its metadata. -/
theorem asked_of_jumps {asked : σ → ν} {spared : ContractIdentity} {later : Course σ}
    (hc : o.Local c) (hdistinct : ids.Nodup) (hforce : settings.force = false)
    (hasks : Asks c spared asked) (hjumps : Jumps c world spared)
    (hrun : Runs c settings ids world result later) : asked later.world = asked world := by
  have hlocal := hc.watching hasks
  obtain ⟨n, hagree⟩ :=
    (hc.foretells_sparing hasks hforce hjumps).agrees_front hlocal hdistinct hrun
  have haccounts :=
    hlocal.accounts_of_agree (hdistinct.sublist (List.take_sublist n ids)) hagree
  have hjournal := congrArg Prod.snd haccounts.journal
  have hentered (entries : List (ContractIdentity × Attestation)) (journal : κ × ν) :
      (entries.foldl (fun journal entry => (o.watching asked).enter journal entry.1 entry.2)
        journal).2 = journal.2 := by
    induction entries generalizing journal with
    | nil => rfl
    | cons entry entries ih => exact ih _
  rwa [hentered] at hjournal

namespace Script

def laterCalls (id : ContractIdentity) (ledger : Ledger) : List (ContractIdentity × Call) :=
  ledger.calls.filter fun entry =>
    entry.1 = id && (entry.2 = .input || entry.2 = .compile || entry.2 = .code)

theorem laterCalls_append (id : ContractIdentity) (ledger : Ledger)
    {entry : ContractIdentity × Call}
    (h : entry.1 ≠ id ∨ entry.2 = .config ∨ entry.2 = .hasMetadata ∨ entry.2 = .save) :
    laterCalls id { ledger with calls := ledger.calls ++ [entry] } = laterCalls id ledger := by
  have hentry : (decide (entry.1 = id) &&
      (decide (entry.2 = .input) || decide (entry.2 = .compile) || decide (entry.2 = .code))) =
        false := by
    rcases h with hother | hcall | hcall | hcall
    · simp [hother]
    · simp [hcall]
    · simp [hcall]
    · simp [hcall]
  simp only [laterCalls, List.filter_append, List.filter_cons, List.filter_nil, hentry,
    Bool.false_eq_true, if_false, List.append_nil]

theorem asks_collaborators (s : Script) (listing : Except String Unit) (id : ContractIdentity) :
    Asks (s.collaborators listing) id (laterCalls id) where
  config other w := laterCalls_append id w (.inr (.inl rfl))
  hasMetadata other w := laterCalls_append id w (.inr (.inr (.inl rfl)))
  input other w hother := laterCalls_append id w (.inl hother)
  compile other compiler input w hother := laterCalls_append id w (.inl hother)
  finish other compiler input w v _ := by
    simp only [collaborators]
    cases s.answers? other with
    | none => rfl
    | some answers => rfl
  code other w hother := laterCalls_append id w (.inl hother)
  save other attestation w := by
    rw [run_save]
    exact laterCalls_append id w (.inr (.inr (.inr rfl)))

theorem answers?_of_mem {s : Script} {id : ContractIdentity} (h : id ∈ s.map Prod.fst) :
    ∃ answers, s.answers? id = some answers ∧ (id, answers) ∈ s := by
  induction s with
  | nil => cases h
  | cons entry s ih =>
    obtain ⟨other, answers⟩ := entry
    rw [answers?, List.lookup_cons]
    by_cases hother : id = other
    · subst hother
      exact ⟨answers, by simp, List.mem_cons_self⟩
    · rw [beq_eq_false_iff_ne.2 hother]
      obtain ⟨found, hfound, hmem⟩ := ih ((List.mem_cons.1 h).resolve_left hother)
      exact ⟨found, hfound, List.mem_cons_of_mem _ hmem⟩

/-- Collaborators whose answers are known beforehand keep what is saved, if saving is
answered well. -/
theorem storeKeeps_collaborators (s : Script) (listing : Except String Unit) (ledger : Ledger)
    (hsaves : ∀ entry ∈ s, entry.2.save = .ok ()) :
    StoreKeeps (s.collaborators listing) ledger (s.map Prod.fst) := by
  have hsave (id : ContractIdentity) (hid : id ∈ s.map Prod.fst) (attestation : Attestation) :
      ((s.collaborators listing).save id attestation).run ledger =
        (.ok (), ⟨ledger.saved ++ [(id, attestation)], ledger.calls ++ [(id, .save)]⟩) := by
    obtain ⟨answers, hanswers, hmem⟩ := answers?_of_mem hid
    have hok : answers.save = .ok () := hsaves _ hmem
    rw [run_save, hanswers]
    simp [hok, Except.isOk, Except.toBool]
  constructor
  · intro id hid attestation
    rw [hsave id hid]
  · exact fun _ _ _ => rfl
  · intro id hid attestation hnone
    obtain ⟨answers, hanswers, -⟩ := answers?_of_mem hid
    rw [hsave id hid]
    have hrun (w : Ledger) : (((s.collaborators listing).hasMetadata id).run w).1 =
        answers.hasMetadata.map (· || w.saved.any fun entry => entry.1 = id) := by
      simp only [collaborators, reply, hanswers]
      rfl
    rw [hrun] at hnone ⊢
    cases hmetadata : answers.hasMetadata with
    | error text =>
      rw [hmetadata] at hnone
      cases hnone
    | ok kept => simp [Except.map]

end Script

/-- A second run over the contracts of a run that ended well adds nothing, unless its
window overflows and it breaks off. Then it has counted the contracts in front of some
place as a run that adds nothing. In any case it leaves no trace, and nobody is asked
about a contract that was verified or left alone before. -/
theorem resumes_unless_overflow (o : Outlook σ μ κ) (c : Collaborators σ) (hc : o.Local c)
    (settings : PipelineSettings) (hsave : settings.saveMetadata = true)
    (hforce : settings.force = false) (ids : List ContractIdentity) (hdistinct : ids.Nodup)
    (world : σ) (hkeeps : StoreKeeps c world ids) {summary : Summary} {course : Course σ}
    (hrun : Runs c settings ids world (.ok summary) course) {result : Except Fault Summary}
    {later : Course σ} (hagain : Runs c settings ids course.world result later) :
    (result ≠ .error .overflow → Resumes o summary course.world result later) ∧
    (result = .error .overflow → ∃ head < ids.length,
      2 ^ 64 ≤ head + (settings.workers + settings.workAheadLimit) ∧
        later.summary = (tally ((ids.take head).map (outcomeIn c settings world))).again) ∧
    o.Same later.world course.world ∧
    ∀ report ∈ course.reports, report.outcome.isKept = true →
      ∀ (ν : Type) (asked : σ → ν), Asks c report.id asked →
        asked later.world = asked course.world := by
  have hstaffed := hrun.staffed rfl
  obtain ⟨hsettles, hsurvived⟩ := hrun.settles hc hdistinct
  have hcompleted := hsettles.completed rfl hc hdistinct hsave hforce hkeeps
  obtain rfl : summary = tally (ids.map (outcomeIn c settings world)) := by
    obtain ⟨fault, -, hok⟩ := hsettles.accounts hc hdistinct
    rw [← hcompleted.summary]
    cases fault with
    | none => exact Except.ok.inj hok
    | some fault => cases hok
  have hsurvived' (id : ContractIdentity) (hid : id ∈ ids) :
      (outcomeIn c settings course.world id).isOverflow = false := by
    rw [hcompleted.again id hid, ItemOutcome.isOverflow_again, hsurvived id hid]
  have hasked (report : Report) (hreport : report ∈ course.reports)
      (hkept : report.outcome.isKept = true) (ν : Type) (asked : σ → ν)
      (hasks : Asks c report.id asked) : asked later.world = asked course.world :=
    asked_of_jumps hc hdistinct hforce hasks (hcompleted.jumps report hreport hkept) hagain
  rcases (hc.foretells settings course.world).settles hc hdistinct hstaffed hagain with
    ⟨hsettles', -⟩ | ⟨rfl, head, hlt, hsum, hsettles'⟩ | ⟨-, id, hid, hoverflow⟩
  · have hresumes := hcompleted.resumes hc (List.Sublist.refl ids) hdistinct hsettles'
    refine ⟨fun _ => hresumes, fun hoverflow => ?_, hresumes.world, hasked⟩
    cases hresumes.result.symm.trans hoverflow
  · have hresumes := hcompleted.resumes hc (List.take_sublist head ids)
      (hdistinct.sublist (List.take_sublist head ids)) hsettles'
    refine ⟨fun hne => absurd rfl hne, fun _ => ⟨head, hlt, hsum, ?_⟩, hresumes.world, hasked⟩
    exact Except.ok.inj hresumes.result
  · cases (hsurvived' id hid).symm.trans hoverflow

def stopping : Answers where
  config :=
    .ok { name := "Vault", compiler := "v0.8.9+commit.e5", sourcePath := none, skip := false }
  hasMetadata := .ok false
  input := .ok .null
  output := some (.object [("contracts", .object [("vault.sol", .object [("Vault", .object
    [("evm", .object [("deployedBytecode", .object [("object", .string "00")])])])])])])
  code := .ok [0]
  save := .ok ()
  latency := 0

def assorted : Script :=
  [(⟨1, "0xa"⟩, { stopping with latency := 10 }),
    (⟨1, "0xb"⟩, { stopping with output := none, latency := 5 }),
    (⟨1, "0xc"⟩, { stopping with hasMetadata := .ok true })]

/-- Two workers go over the contracts twice. -/
theorem resumes_assorted :
    let c := assorted.collaborators (.ok ())
    let settings : PipelineSettings := ⟨2, 16, false, true, false⟩
    let first := runFor c settings (assorted.map Prod.fst) {}
    let second := runFor c settings (assorted.map Prod.fst) first.course.world
    first.result = .ok { verified := 1, jumped := 1, failed := 1 } ∧
      second.result = .ok { jumped := 2, failed := 1 } ∧
      Ledger.outlook.Same second.course.world first.course.world ∧
      ∀ id ∈ [⟨1, "0xa"⟩, ⟨1, "0xc"⟩],
        Script.laterCalls id second.course.world = Script.laterCalls id first.course.world := by
  intro c settings first second
  have hfirst : first.result = .ok { verified := 1, jumped := 1, failed := 1 } := by
    decide +kernel
  have hsecond : second.result ≠ .error .overflow := by decide +kernel
  have hkept : [⟨1, "0xa"⟩, ⟨1, "0xc"⟩].all (fun id => first.course.reports.any fun report =>
      report.id = id && report.outcome.isKept) = true := by decide +kernel
  have hrun : Runs c settings (assorted.map Prod.fst) {} first.result first.course := .clocked
  have hagain : Runs c settings (assorted.map Prod.fst) first.course.world second.result
      second.course := .clocked
  -- From here on nothing is computed any more.
  clear_value second first
  rw [hfirst] at hrun
  have hlocal : Ledger.outlook.Local c := assorted.local_collaborators (.ok ())
  have hkeeps : StoreKeeps c {} (assorted.map Prod.fst) :=
    assorted.storeKeeps_collaborators (.ok ()) {} (by simp [assorted, stopping])
  obtain ⟨hresumes, -, hsame, hasked⟩ := resumes_unless_overflow Ledger.outlook c hlocal settings
    rfl rfl (assorted.map Prod.fst) (by decide) {} hkeeps hrun hagain
  refine ⟨hfirst, (hresumes hsecond).result, hsame, fun id hid => ?_⟩
  obtain ⟨report, hreport, heq⟩ := List.any_eq_true.1 (List.all_eq_true.1 hkept id hid)
  obtain ⟨hid, houtcome⟩ := Bool.and_eq_true_iff.1 heq
  obtain rfl := of_decide_eq_true hid
  exact hasked report hreport houtcome _ _ (assorted.asks_collaborators (.ok ()) report.id)

/-- Where the window of two workers overflows after the first contract, the last one is
reached only while the first takes its time, as it does until it is verified. -/
theorem overflow_when_resumed :
    let c := assorted.collaborators (.ok ())
    let settings : PipelineSettings := ⟨2, 2 ^ 64 - 3, false, true, false⟩
    let first := runFor c settings (assorted.map Prod.fst) {}
    first.result = .ok { verified := 1, jumped := 1, failed := 1 } ∧
      (runFor c settings (assorted.map Prod.fst) first.course.world).result =
        .error .overflow := by
  decide +kernel

end Pipeline

end Provenance
