import Provenance.Proofs.Pipeline.Rehearsal
import Provenance.Proofs.Pipeline.Sequential
import Provenance.Proofs.Queue.Clocked

/-!
The pipeline does what it would do one by one. Contracts are worked on ahead of
their turn, and the calls of their workers come in any order, but an outcome is
taken in its turn only, and until then nothing can be seen of the work. Where the
window overflows the run breaks off, and then this is so of the contracts before.
-/

namespace Provenance.Pipeline

open Queue

variable {σ μ κ ω π : Type}

def crew (c : Collaborators σ) (force : Bool) :
    Crew ContractIdentity ItemOutcome Unit (Course σ) (Calls σ ItemOutcome) where
  begins item _ := verifying c force item.payload
  moves _ course work course' work' := ∃ change next, work = .call change next ∧
    course' = { course with world := change course.world } ∧ work' = next course.world
  ends _ work outcome := ∃ value, work = .done value ∧ outcome = ended value
  stirs _ _ := False

def handler (c : Collaborators σ) (settings : PipelineSettings) :
    Handler ContractIdentity ItemOutcome (Course σ) Fault := fun course delivery =>
  take c settings course delivery.item.index delivery.item.payload delivery.output

def concluded (result : Except (Failure Fault) Unit) (course : Course σ) : Except Fault Summary :=
  match result with
  | .ok _ => .ok course.summary
  | .error failure => .error (Fault.ofQueue failure)

/-- A crew at work on contracts, and a handler that takes their outcomes. -/
structure Works (o : Outlook σ μ κ) (c : Collaborators σ) (settings : PipelineSettings) (world : σ)
    (view : ω → Course σ) (crew : Crew ContractIdentity ItemOutcome Unit ω π)
    (handle : Handler ContractIdentity ItemOutcome ω Fault)
    (OnTrack : WorkItem ContractIdentity → π → Prop) : Prop where
  begins : ∀ item worker, OnTrack item (crew.begins item worker)
  moves : ∀ item w p w' p', o.saved item.payload (view w).world = o.saved item.payload world →
    OnTrack item p → crew.moves item w p w' p' → o.Agree (view w') (view w) ∧ OnTrack item p'
  stirs : ∀ w w', crew.stirs w w' → o.Agree (view w') (view w)
  ends : ∀ item p outcome, OnTrack item p → crew.ends item p outcome →
    outcome = ended (outcomeIn c settings world item.payload)
  handles : ∀ w delivery, (view (handle w delivery).1, (handle w delivery).2) =
    take c settings (view w) delivery.item.index delivery.item.payload delivery.output

def Settles (o : Outlook σ μ κ) (c : Collaborators σ) (settings : PipelineSettings)
    (ids : List ContractIdentity) (world : σ) (result : Except Fault Summary) (course : Course σ) :
    Prop :=
  o.Agree course (oneByOne c settings 0 ids { world }).1 ∧
    result = match (oneByOne c settings 0 ids { world }).2 with
      | none => .ok course.summary
      | some fault => .error fault

/-- The window overflows at some contract. The contracts before it came to what they
come to one by one, and nothing stopped them. -/
def BreaksOff (o : Outlook σ μ κ) (c : Collaborators σ) (settings : PipelineSettings)
    (ids : List ContractIdentity) (world : σ) (result : Except Fault Summary) (course : Course σ) :
    Prop :=
  result = .error .overflow ∧
    ∃ head < ids.length, 2 ^ 64 ≤ head + (settings.workers + settings.workAheadLimit) ∧
      Settles o c settings (ids.take head) world (.ok course.summary) course

def Refines (o : Outlook σ μ κ) (c : Collaborators σ) (settings : PipelineSettings)
    (ids : List ContractIdentity) (world : σ) (result : Except Fault Summary) (course : Course σ) :
    Prop :=
  Settles o c settings ids world result course ∨
    BreaksOff o c settings ids world result course ∧ ¬ Settles o c settings ids world result course

/-- What a run over contracts may come to: the calls of its workers come in any order,
or as the clock has them. -/
inductive Runs (c : Collaborators σ) (settings : PipelineSettings) (ids : List ContractIdentity)
    (world : σ) : Except Fault Summary → Course σ → Prop
  | returned {result : Except (Failure Fault) Unit}
      {log : List (Delivery ContractIdentity ItemOutcome)} {course : Course σ}
      (h : Session.Returns (crew c settings.force) (handler c settings) ids
        (List.replicate settings.workers ()) settings.workAheadLimit { world } result log course) :
      Runs c settings ids world (concluded result course) course
  | brokenOff {log : List (Delivery ContractIdentity ItemOutcome)} {course : Course σ}
      (h : Session.BreaksOff (crew c settings.force) (handler c settings) ids
        (List.replicate settings.workers ()) settings.workAheadLimit { world } log course) :
      Runs c settings ids world (.error .overflow) course
  | clocked : Runs c settings ids world (runFor c settings ids world).result
      (runFor c settings ids world).course

variable {o : Outlook σ μ κ} {c : Collaborators σ} {settings : PipelineSettings}
  {ids : List ContractIdentity} {world : σ}

theorem eq_of_ended_completed {outcome value : ItemOutcome} {worker : Unit}
    (h : ended outcome = .completed worker value) :
    value = outcome ∧ outcome.isOverflow = false := by
  unfold ended at h
  split at h
  · cases h
  · rename_i hsurvived
    cases h
    exact ⟨rfl, eq_false_of_ne_true hsurvived⟩

theorem isOverflow_of_ended_lost {outcome : ItemOutcome} (h : ended outcome = .lost) :
    outcome.isOverflow = true := by
  unfold ended at h
  split at h
  · assumption
  · cases h

theorem oneByOne_singleton (c : Collaborators σ) (settings : PipelineSettings) (index : Nat)
    (id : ContractIdentity) (course : Course σ) : oneByOne c settings index [id] course =
      take c settings (course.act (verifyContract c settings.force id)).1 index id
        (course.act (verifyContract c settings.force id)).2 := by
  rw [oneByOne]
  dsimp only
  rcases take c settings (course.act (verifyContract c settings.force id)).1 index id
    (course.act (verifyContract c settings.force id)).2 with ⟨course', _ | fault⟩
  · rfl
  · rfl

/-- A contract is not among those before it. -/
theorem not_mem_take (hdistinct : ids.Nodup) {index n : Nat} (hn : n ≤ index)
    {id : ContractIdentity} (hid : ids[index]? = some id) : id ∉ ids.take n := by
  intro hmem
  obtain ⟨i, hi, hget⟩ := List.mem_take_iff_getElem.1 hmem
  obtain ⟨hindex, hat⟩ := List.getElem?_eq_some_iff.1 hid
  have := (List.Nodup.getElem_inj_iff hdistinct).1 (hget.trans hat.symm)
  omega

/-- The next contract in its turn. -/
theorem oneByOne_take_succ (hc : o.Local c) (hdistinct : ids.Nodup) {n : Nat}
    {id : ContractIdentity} (hid : ids[n]? = some id)
    (hnone : (oneByOne c settings 0 (ids.take n) { world }).2 = none) {course : Course σ}
    (h : o.Agree course (oneByOne c settings 0 (ids.take n) { world }).1) :
    o.Agree (take c settings course n id (outcomeIn c settings world id)).1
        (oneByOne c settings 0 (ids.take (n + 1)) { world }).1 ∧
      (take c settings course n id (outcomeIn c settings world id)).2 =
        (oneByOne c settings 0 (ids.take (n + 1)) { world }).2 := by
  have hlength : (ids.take n).length = n := by
    have := (List.getElem?_eq_some_iff.1 hid).1
    rw [List.length_take]
    omega
  have hunseen := hc.oneByOne_other settings 0 (ids.take n) { world }
    (not_mem_take hdistinct (Nat.le_refl n) hid)
  rw [List.take_add_one, hid, Option.toList_some, oneByOne_append]
  rcases hseq : oneByOne c settings 0 (ids.take n) { world } with ⟨sequential, fault⟩
  rw [hseq] at hnone hunseen h
  obtain rfl : fault = none := hnone
  obtain ⟨turned, hturned, hact⟩ := hc.act_verify settings hunseen
  dsimp only
  rw [hlength, Nat.zero_add, oneByOne_singleton, hact]
  exact hc.take_agree settings (h.trans hturned.symm) n id _

/-- What stops a run at its first contracts stops the whole run. -/
theorem oneByOne_eq_of_fault {n : Nat} {fault : Fault}
    (h : (oneByOne c settings 0 (ids.take n) { world }).2 = some fault) :
    oneByOne c settings 0 ids { world } = oneByOne c settings 0 (ids.take n) { world } := by
  have hsplit := oneByOne_append c settings 0 (ids.take n) (ids.drop n) { world }
  rw [List.take_append_drop] at hsplit
  rw [hsplit]
  rcases hseq : oneByOne c settings 0 (ids.take n) { world } with ⟨course, _ | fault'⟩
  · rw [hseq] at h
    cases h
  · rfl

/-- One by one there is no window that could overflow. -/
theorem not_settles_overflow (hc : o.Local c) (hdistinct : ids.Nodup) (course : Course σ) :
    ¬ Settles o c settings ids world (.error .overflow) course := by
  rintro ⟨-, hresult⟩
  have hstopped : (oneByOne c settings 0 ids { world }).2 = _ :=
    (hc.accounts_oneByOne hdistinct).stopped
  cases hfault : (oneByOne c settings 0 ids { world }).2 with
  | none =>
    rw [hfault] at hresult
    cases hresult
  | some fault =>
    rw [hfault] at hresult hstopped
    obtain rfl : Fault.overflow = fault := Except.error.inj hresult
    obtain ⟨id, -, hstop⟩ := List.exists_of_findSome?_eq_some hstopped.symm
    unfold stopIn at hstop
    split at hstop
    · obtain ⟨reason, -, hreason⟩ := Option.map_eq_some_iff.1 hstop
      cases hreason
    · cases hstop

/-- Where outcomes that were taken have left a run: where they leave it one by one. It has
failed if these stopped it, or if some worker was lost. -/
structure Stands (o : Outlook σ μ κ) (c : Collaborators σ) (settings : PipelineSettings)
    (ids : List ContractIdentity) (world : σ) (taken : Nat) (failure : Option (Failure Fault))
    (course : Course σ) : Prop where
  agree : o.Agree course (oneByOne c settings 0 (ids.take taken) { world }).1
  survived : ∀ id ∈ ids.take taken, (outcomeIn c settings world id).isOverflow = false
  failed : failure = (oneByOne c settings 0 (ids.take taken) { world }).2.map .handler ∨
    failure = some .workerLost ∧ ∃ id ∈ ids, (outcomeIn c settings world id).isOverflow = true

theorem Stands.start (o : Outlook σ μ κ) (c : Collaborators σ) (settings : PipelineSettings)
    (ids : List ContractIdentity) (world : σ) : Stands o c settings ids world 0 none { world } :=
  ⟨⟨.refl o world, rfl, rfl⟩, nofun, .inl rfl⟩

theorem Stands.unstopped {taken : Nat} {course : Course σ}
    (h : Stands o c settings ids world taken none course) :
    (oneByOne c settings 0 (ids.take taken) { world }).2 = none :=
  Option.map_eq_none_iff.1 (h.failed.resolve_right nofun).symm

namespace Works

variable {view : ω → Course σ} {crew : Crew ContractIdentity ItemOutcome Unit ω π}
  {handle : Handler ContractIdentity ItemOutcome ω Fault}
  {OnTrack : WorkItem ContractIdentity → π → Prop}

/-- The outcomes taken so far left the run where they leave it one by one. -/
theorem keeps (hw : Works o c settings world view crew handle OnTrack) (hc : o.Local c)
    (hdistinct : ids.Nodup) :
    Keeps crew handle ids
      (fun log failure w => Stands o c settings ids world log.length failure (view w)) OnTrack
      (fun item output => ids[item.index]? = some item.payload ∧
        output = outcomeIn c settings world item.payload ∧ output.isOverflow = false) where
  begins item worker _ := hw.begins item worker
  moves log failure w item p w' p' hkept hstarted hahead htrack hmove := by
    have hunseen := hc.oneByOne_other settings 0 (ids.take log.length) { world }
      (not_mem_take hdistinct hahead hstarted.payload)
    have hsaved := (hkept.agree.world.saved item.payload).trans hunseen
    obtain ⟨hquiet, htrack'⟩ := hw.moves item w p w' p' hsaved htrack hmove
    exact ⟨{ hkept with agree := hquiet.trans hkept.agree }, htrack'⟩
  stirs log failure w w' hkept hstir :=
    { hkept with agree := (hw.stirs w w' hstir).trans hkept.agree }
  completes item p worker output endedAt hstarted htrack hend := by
    obtain ⟨rfl, hsurvived⟩ := eq_of_ended_completed (hw.ends item p _ htrack hend).symm
    exact ⟨hstarted.payload, rfl, hsurvived⟩
  loses log w item p hkept hstarted htrack hend := by
    have hoverflow := isOverflow_of_ended_lost (hw.ends item p _ htrack hend).symm
    have hmem := List.mem_of_getElem? hstarted.payload
    exact { hkept with failed := .inr ⟨rfl, item.payload, hmem, hoverflow⟩ }
  delivers log w item output waiting hkept hindex hgood := by
    obtain ⟨hpayload, rfl, hsurvived⟩ := hgood
    rw [hindex] at hpayload
    obtain ⟨htaken, hstopped⟩ :=
      oneByOne_take_succ hc hdistinct hpayload hkept.unstopped hkept.agree
    have hhandled := hw.handles w ⟨item, outcomeIn c settings world item.payload, waiting⟩
    dsimp only at hhandled
    rw [hindex] at hhandled
    have hview := congrArg Prod.fst hhandled
    have hfault := congrArg Prod.snd hhandled
    dsimp only at hview hfault
    rw [List.length_append, List.length_singleton, hview, hfault, hstopped]
    refine ⟨htaken, fun id hid => ?_, .inl rfl⟩
    rw [List.take_add_one, hpayload, Option.toList_some, List.mem_append,
      List.mem_singleton] at hid
    rcases hid with hbefore | rfl
    · exact hkept.survived id hbefore
    · exact hsurvived

section Runs

variable {start w : ω} {result : Except (Failure Fault) Unit}
  {log : List (Delivery ContractIdentity ItemOutcome)}

/-- Every session of such a crew stands where its log has brought it. -/
theorem invariant (hw : Works o c settings world view crew handle OnTrack) (hc : o.Local c)
    (hdistinct : ids.Nodup) (hstart : view start = { world })
    {s : Session ContractIdentity ItemOutcome Unit ω Fault π}
    (hs : s.Reach crew handle ids (List.replicate settings.workers ()) settings.workAheadLimit
      start) :
    s.Invariant ids settings.workers settings.workAheadLimit
      (fun log failure w => Stands o c settings ids world log.length failure (view w)) OnTrack
      (fun item output => ids[item.index]? = some item.payload ∧
        output = outcomeIn c settings world item.payload ∧ output.isOverflow = false) := by
  have h := hs.invariant (hw.keeps hc hdistinct) (hstart.symm ▸ .start o c settings ids world)
  rwa [List.length_replicate] at h

/-- However a run of such a crew returns, some first contracts were taken as one by one. -/
theorem agrees_front (hw : Works o c settings world view crew handle OnTrack) (hc : o.Local c)
    (hdistinct : ids.Nodup) (hstart : view start = { world })
    (hreturns : Session.Returns crew handle ids (List.replicate settings.workers ())
      settings.workAheadLimit start result log w) :
    ∃ n, o.Agree (view w) (oneByOne c settings 0 (ids.take n) { world }).1 := by
  cases hreturns with
  | atOnce => exact ⟨0, hstart.symm ▸ (Stands.start o c settings ids world).agree⟩
  | settled hs => exact ⟨_, (hw.invariant hc hdistinct hstart hs).kept.agree⟩

/-- A run of such a crew that returns comes to what it comes to one by one, unless some
worker was lost. -/
theorem settles_or_lost (hw : Works o c settings world view crew handle OnTrack) (hc : o.Local c)
    (hdistinct : ids.Nodup) (hstaffed : ids = [] ∨ 0 < settings.workers)
    (hstart : view start = { world })
    (hreturns : Session.Returns crew handle ids (List.replicate settings.workers ())
      settings.workAheadLimit start result log w) :
    Settles o c settings ids world (concluded result (view w)) (view w) ∧
        (∀ summary, concluded result (view w) = .ok summary →
          ∀ id ∈ ids, (outcomeIn c settings world id).isOverflow = false) ∨
      concluded result (view w) = .error .workerLost ∧
        ∃ id ∈ ids, (outcomeIn c settings world id).isOverflow = true := by
  cases hreturns with
  | atOnce hbegin =>
    rcases eq_nil_of_begin? hbegin with ⟨rfl, rfl⟩ | ⟨hitems, hnobody, -⟩
    · rw [hstart]
      exact .inl ⟨⟨⟨.refl o world, rfl, rfl⟩, rfl⟩, nofun⟩
    · have hworkers := hstaffed.resolve_left hitems
      rw [List.replicate_eq_nil_iff] at hnobody
      omega
  | settled hs hreturned =>
    rename_i s
    have h := hw.invariant hc hdistinct hstart hs
    have hkept := h.kept
    rw [h.length_log] at hkept
    cases hqueue : s.queue.failure with
    | none =>
      have hworkers : 0 < settings.workers := by
        simpa [Nat.pos_iff_ne_zero] using hs.staffed
      rw [hqueue, h.complete hworkers hreturned hqueue] at hkept
      have hnone := hkept.unstopped
      obtain ⟨hagree, hsurvived, -⟩ := hkept
      rw [List.take_length] at hnone hagree hsurvived
      refine .inl ⟨⟨hagree, ?_⟩, fun _ _ => hsurvived⟩
      rw [hnone]
      simp only [concluded, State.result, hqueue]
    | some failure =>
      rw [hqueue] at hkept
      obtain ⟨hagree, -, hfailed | ⟨hlost, hoverflow⟩⟩ := hkept
      · obtain ⟨fault, hfault, rfl⟩ := Option.map_eq_some_iff.1 hfailed.symm
        have hwhole := oneByOne_eq_of_fault hfault
        refine .inl ⟨⟨hwhole ▸ hagree, ?_⟩, fun summary hok => ?_⟩
        · rw [hwhole, hfault]
          simp only [concluded, State.result, hqueue, Fault.ofQueue]
        · simp only [concluded, State.result, hqueue] at hok
          cases hok
      · refine .inr ⟨?_, hoverflow⟩
        simp only [concluded, State.result, hqueue, Option.some.inj hlost, Fault.ofQueue]

/-- A run of such a crew that breaks off has taken the contracts before as one by one. -/
theorem breaksOff (hw : Works o c settings world view crew handle OnTrack) (hc : o.Local c)
    (hdistinct : ids.Nodup) (hstart : view start = { world })
    (hbreaks : Session.BreaksOff crew handle ids (List.replicate settings.workers ())
      settings.workAheadLimit start log w) :
    BreaksOff o c settings ids world (.error .overflow) (view w) := by
  obtain ⟨hs, hoverflowed⟩ := hbreaks
  have h := hw.invariant hc hdistinct hstart hs
  obtain ⟨hfailure, hlt, hsum⟩ := h.overflowed hoverflowed
  have hkept := h.kept
  rw [h.length_log, hfailure] at hkept
  refine ⟨rfl, _, hlt, hsum, hkept.agree, ?_⟩
  rw [hkept.unstopped]

end Runs

end Works

theorem Outlook.Local.leads (hc : o.Local c) (settings : PipelineSettings) (world : σ)
    (id : ContractIdentity) : o.Leads id (o.saved id world) (outcomeIn c settings world id)
      (verifying c settings.force id) := by
  rw [outcomeIn, ← run_verifying]
  exact steady_verifying hc settings.force world rfl

/-- Work with some collaborators leads to what contracts come to with others, which
save in the same way. -/
structure Foretells (o : Outlook σ μ κ) (c' c : Collaborators σ) (settings : PipelineSettings)
    (world : σ) : Prop where
  save : c'.save = c.save
  leads : ∀ id, o.Leads id (o.saved id world) (outcomeIn c' settings world id)
    (verifying c settings.force id)

theorem Outlook.Local.foretells (hc : o.Local c) (settings : PipelineSettings) (world : σ) :
    Foretells o c c settings world :=
  ⟨rfl, hc.leads settings world⟩

variable {c' : Collaborators σ}

theorem take_of_save_eq (h : c'.save = c.save) (settings : PipelineSettings) :
    take c' settings = take c settings := by
  funext course index id outcome
  simp only [take, settle, h]

theorem Foretells.works_crew (h : Foretells o c' c settings world) :
    Works o c' settings world id (crew c settings.force) (handler c settings)
      fun item work => o.Leads item.payload (o.saved item.payload world)
        (outcomeIn c' settings world item.payload) work where
  begins item _ := h.leads item.payload
  moves item course work course' work' hsaved htrack hmove := by
    obtain ⟨change, next, rfl, rfl, rfl⟩ := hmove
    obtain ⟨hquiet, hnext⟩ := htrack
    exact ⟨⟨hquiet course.world, rfl, rfl⟩, hnext course.world hsaved⟩
  stirs _ _ hstir := nomatch hstir
  ends item work outcome htrack hend := by
    obtain ⟨value, rfl, rfl⟩ := hend
    rw [show value = outcomeIn c' settings world item.payload from htrack]
  handles _ _ := by
    rw [take_of_save_eq h.save]
    rfl

def resumed (work : Calls σ ItemOutcome) (course : Course σ) :
    Course σ × Outcome ItemOutcome Unit :=
  ((course.act work.run).1, ended (course.act work.run).2)

def OnClock (o : Outlook σ μ κ) (c : Collaborators σ) (settings : PipelineSettings) (world : σ)
    (id : ContractIdentity) : Labor ItemOutcome Unit (Course σ) → Prop
  | .fresh _ => True
  | .asleep _ resume => ∃ work : Calls σ ItemOutcome,
    o.Leads id (o.saved id world) (outcomeIn c settings world id) work ∧ resume = resumed work
  | .ended outcome => outcome = ended (outcomeIn c settings world id)

theorem act_agree (course : Course σ) {work : Calls σ ItemOutcome} {id : ContractIdentity}
    {kept : μ} {outcome : ItemOutcome} (hwork : o.Leads id kept outcome work)
    (h : o.saved id course.world = kept) :
    o.Agree (course.act work.run).1 course ∧ (course.act work.run).2 = outcome := by
  obtain ⟨hvalue, hsame⟩ := hwork.run h
  exact ⟨⟨hsame, rfl, rfl⟩, hvalue⟩

/-- What the clock does when a wait for the compiler ends. -/
theorem act_compiling (c : Collaborators σ) (id : ContractIdentity) (config : ContractConfig)
    (begun : Compiling σ) (course : Course σ) :
    course.act (compiling c id (.ok (config, begun))).run =
      ((course.act begun.finish).1.act
        (conclude c id config (course.act begun.finish).2)) := by
  rw [compiling, Calls.run_lift]
  rw [show (fun compiled => (concluding c id config compiled).run) = conclude c id config from
    funext fun compiled => run_concluding c id config compiled]
  rfl

/-- The start of a contract on the clock. -/
theorem onClock_start (h : Foretells o c' c settings world) (item : WorkItem ContractIdentity)
    (w w' : Timed (Course σ)) (worker : Unit) (labor : Labor ItemOutcome Unit (Course σ))
    (hsaved : o.saved item.payload w.state.world = o.saved item.payload world)
    (hmove : (actors c settings).advance item w (.fresh worker) = (w', labor)) :
    o.Agree w'.state w.state ∧ OnClock o c' settings world item.payload labor := by
  obtain ⟨hleads, hsame⟩ := (h.leads item.payload).of_bind hsaved
  rw [run_preparing] at hleads hsame
  obtain ⟨prepared, world', hprepared⟩ : ∃ prepared world',
      (prepare c settings.force item.payload).run w.state.world = (prepared, world') :=
    ⟨_, _, rfl⟩
  rw [hprepared] at hleads hsame
  have hact : w.state.act (prepare c settings.force item.payload) =
      ({ w.state with world := world' }, prepared) := by
    unfold Course.act
    rw [show StateT.run (prepare c settings.force item.payload) w.state.world = _ from hprepared]
  have hagree : o.Agree { w.state with world := world' } w.state := ⟨hsame, rfl, rfl⟩
  cases prepared with
  | error outcome =>
    have hadvance : (actors c settings).advance item w (.fresh worker) =
        (⟨w.now, { w.state with world := world' }⟩, .ended (ended outcome)) := by
      simp only [Actors.advance, actors, hact]
    obtain ⟨rfl, rfl⟩ := Prod.mk.inj (hadvance.symm.trans hmove)
    rw [show outcome = outcomeIn c' settings world item.payload from hleads]
    exact ⟨hagree, rfl⟩
  | ok prepared =>
    obtain ⟨config, begun⟩ := prepared
    have hfinish := act_compiling c item.payload config begun
    have hsaved' := (hsame.saved item.payload).trans hsaved
    dsimp only at hleads
    by_cases hduration : begun.duration = 0
    · have hadvance : (actors c settings).advance item w (.fresh worker) =
          (⟨w.now, (resumed (compiling c item.payload (.ok (config, begun)))
              { w.state with world := world' }).1⟩,
            .ended (resumed (compiling c item.payload (.ok (config, begun)))
              { w.state with world := world' }).2) := by
        simp only [Actors.advance, actors, hact, hduration, if_true, resumed, hfinish]
      obtain ⟨rfl, rfl⟩ := Prod.mk.inj (hadvance.symm.trans hmove)
      obtain ⟨hworked, hvalue⟩ := act_agree { w.state with world := world' } hleads hsaved'
      exact ⟨hworked.trans hagree, congrArg ended hvalue⟩
    · have hadvance : (actors c settings).advance item w (.fresh worker) =
          (⟨w.now, { w.state with world := world' }⟩, .asleep (item.startedAt + begun.duration)
            (resumed (compiling c item.payload (.ok (config, begun))))) := by
        simp only [Actors.advance, actors, hact, hduration, if_false]
        congr 2
        funext course
        simp only [resumed, hfinish]
      obtain ⟨rfl, rfl⟩ := Prod.mk.inj (hadvance.symm.trans hmove)
      exact ⟨hagree, _, hleads, rfl⟩

theorem Foretells.works_actors (h : Foretells o c' c settings world) :
    Works o c' settings world Timed.state (actors c settings).crew
      (Run.handler (actors c settings))
      fun item => OnClock o c' settings world item.payload where
  begins _ _ := trivial
  moves item w labor w' labor' hsaved htrack hmove := by
    cases labor with
    | fresh worker => exact onClock_start h item w w' worker labor' hsaved hmove
    | asleep deadline resume =>
      obtain ⟨work, hwork, rfl⟩ := htrack
      obtain ⟨hagree, hvalue⟩ := act_agree w.state hwork hsaved
      obtain ⟨rfl, rfl⟩ := Prod.mk.inj hmove
      exact ⟨hagree, congrArg ended hvalue⟩
    | ended outcome =>
      obtain ⟨rfl, rfl⟩ := Prod.mk.inj hmove
      exact ⟨⟨.refl o _, rfl, rfl⟩, htrack⟩
  stirs w w' hstir := by
    rw [show w'.state = w.state from hstir]
    exact ⟨.refl o _, rfl, rfl⟩
  ends item labor outcome htrack hend := by
    obtain rfl : labor = .ended outcome := hend
    exact htrack
  handles _ _ := by
    rw [take_of_save_eq h.save]
    rfl

/-- However a run ends, some first contracts were taken as one by one. -/
theorem Foretells.agrees_front (h : Foretells o c' c settings world) (hc : o.Local c')
    (hdistinct : ids.Nodup) {result : Except Fault Summary} {course : Course σ}
    (hrun : Runs c settings ids world result course) :
    ∃ n, o.Agree course (oneByOne c' settings 0 (ids.take n) { world }).1 := by
  cases hrun with
  | returned hreturns => exact h.works_crew.agrees_front hc hdistinct rfl hreturns
  | brokenOff hbreaks =>
    obtain ⟨-, head, -, -, hsettles⟩ := h.works_crew.breaksOff hc hdistinct rfl hbreaks
    exact ⟨head, hsettles.1⟩
  | clocked =>
    obtain ⟨log, hreturns | ⟨-, hbreaks⟩⟩ := process_ends (actors c settings) ids
      (List.replicate settings.workers ()) settings.workAheadLimit ({ world } : Course σ)
    · exact h.works_actors.agrees_front hc hdistinct rfl hreturns
    · obtain ⟨-, head, -, -, hsettles⟩ := h.works_actors.breaksOff hc hdistinct rfl hbreaks
      exact ⟨head, hsettles.1⟩

/-- Every run that work foretells comes to what it comes to one by one, or it breaks off,
or some worker is lost. -/
theorem Foretells.settles (h : Foretells o c' c settings world) (hc : o.Local c')
    (hdistinct : ids.Nodup) (hstaffed : ids = [] ∨ 0 < settings.workers)
    {result : Except Fault Summary} {course : Course σ}
    (hrun : Runs c settings ids world result course) :
    Settles o c' settings ids world result course ∧
        (∀ summary, result = .ok summary →
          ∀ id ∈ ids, (outcomeIn c' settings world id).isOverflow = false) ∨
      BreaksOff o c' settings ids world result course ∨
      result = .error .workerLost ∧
        ∃ id ∈ ids, (outcomeIn c' settings world id).isOverflow = true := by
  cases hrun with
  | returned hreturns =>
    exact (h.works_crew.settles_or_lost hc hdistinct hstaffed rfl hreturns).imp_right .inr
  | brokenOff hbreaks => exact .inr (.inl (h.works_crew.breaksOff hc hdistinct rfl hbreaks))
  | clocked =>
    obtain ⟨log, hreturns | ⟨hresult, hbreaks⟩⟩ := process_ends (actors c settings) ids
      (List.replicate settings.workers ()) settings.workAheadLimit ({ world } : Course σ)
    · exact (h.works_actors.settles_or_lost hc hdistinct hstaffed rfl hreturns).imp_right .inr
    · have hbreaks' := h.works_actors.breaksOff hc hdistinct rfl hbreaks
      have hoverflow : (runFor c settings ids world).result = .error .overflow := by
        simp only [runFor, hresult, Fault.ofQueue]
      rw [hoverflow]
      exact .inr (.inl hbreaks')

/-- Every run of the pipeline over distinct contracts, in which no worker is lost, comes to
what it comes to one by one, in whatever order the calls of the workers come and on the
clock. Only where the window overflows it breaks off, and then it has come to what the
contracts before come to. One by one, each contract comes to what it comes to in the world
before the run, up to the first that stops it, and what is verified is saved in this order. -/
theorem refines_one_by_one (o : Outlook σ μ κ) (c : Collaborators σ) (hc : o.Local c)
    (settings : PipelineSettings) (ids : List ContractIdentity) (hdistinct : ids.Nodup) (world : σ)
    (hworkers : 0 < settings.workers)
    (hsurvived : ∀ id ∈ ids, (outcomeIn c settings world id).isOverflow = false) :
    (∀ result course, Runs c settings ids world result course →
      Refines o c settings ids world result course) ∧
    Accounts o c settings ids world (oneByOne c settings 0 ids { world }) := by
  refine ⟨fun result course hrun => ?_, hc.accounts_oneByOne hdistinct⟩
  rcases (hc.foretells settings world).settles hc hdistinct (.inr hworkers) hrun with
    ⟨hsettles, -⟩ | ⟨rfl, hbreaks⟩ | ⟨-, id, hid, hoverflow⟩
  · exact .inl hsettles
  · exact .inr ⟨⟨rfl, hbreaks⟩, not_settles_overflow hc hdistinct course⟩
  · cases (hsurvived id hid).symm.trans hoverflow

def excluded : Answers where
  config := .ok { name := "Vault", compiler := "v0.8.9", sourcePath := none, skip := true }
  hasMetadata := .ok false
  input := .error "no input"
  output := none
  code := .error "no node"
  save := .error "read-only"
  latency := 0

def faulty : Script :=
  [(⟨1, "0xa"⟩, excluded),
    (⟨1, "0xb"⟩, { excluded with config := .error "gone" }),
    (⟨1, "0xc"⟩, excluded)]

/-- Two workers stop at the contract at which one alone stops. -/
theorem refines_faulty :
    (faulty.map Prod.fst).Nodup ∧
    Refines Ledger.outlook (faulty.collaborators (.ok ())) ⟨2, 16, true, true, false⟩
      (faulty.map Prod.fst) {}
      (.error (.failFast ⟨1, "0xb"⟩ "contract storage: gone"))
      (runFor (faulty.collaborators (.ok ())) ⟨2, 16, true, true, false⟩
        (faulty.map Prod.fst) {}).course :=
  ⟨by decide, (refines_one_by_one Ledger.outlook (faulty.collaborators (.ok ()))
    (faulty.local_collaborators (.ok ())) ⟨2, 16, true, true, false⟩ (faulty.map Prod.fst)
    (by decide) {} (by decide) (by decide)).1 _ _ .clocked⟩

/-- One worker with the largest window but one: the second of two contracts is never
reached, which one by one is excluded like the first. -/
theorem second_never_reached :
    let c := Script.collaborators [(⟨1, "0xa"⟩, excluded), (⟨1, "0xb"⟩, excluded)] (.ok ())
    let settings : PipelineSettings := ⟨1, 2 ^ 64 - 2, false, true, false⟩
    (runFor c settings [⟨1, "0xa"⟩, ⟨1, "0xb"⟩] {}).result = .error .overflow ∧
      (oneByOne c settings 0 [⟨1, "0xa"⟩, ⟨1, "0xb"⟩] { world := {} }).1.summary =
        { skipped := 2 } :=
  ⟨rfl, rfl⟩

end Provenance.Pipeline
