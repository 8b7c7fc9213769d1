import Mathlib.Data.List.Induction
import Provenance.Proofs.Pipeline.Calls

/-!
Contracts processed one by one, in their order. Where the contracts are distinct
each comes to what it comes to in the world before the run, since nothing that
it goes by changes before its turn.
-/

namespace Provenance.Pipeline

variable {σ μ κ : Type}

/-- Contracts one by one: the next one begins when the outcome of the one before
it was taken. -/
def oneByOne (c : Collaborators σ) (settings : PipelineSettings) :
    Nat → List ContractIdentity → Course σ → Course σ × Option Fault
  | _, [], course => (course, none)
  | index, id :: ids, course =>
    let (course, outcome) := course.act (verifyContract c settings.force id)
    match take c settings course index id outcome with
    | (course, none) => oneByOne c settings (index + 1) ids course
    | (course, some fault) => (course, some fault)

def outcomeIn (c : Collaborators σ) (settings : PipelineSettings) (world : σ)
    (id : ContractIdentity) : ItemOutcome :=
  ((verifyContract c settings.force id).run world).1

def settledIn (c : Collaborators σ) (settings : PipelineSettings) (world : σ)
    (id : ContractIdentity) : ItemOutcome :=
  ((settle c settings id (outcomeIn c settings world id)).run world).1

def stopIn (c : Collaborators σ) (settings : PipelineSettings) (world : σ)
    (id : ContractIdentity) : Option Fault :=
  if settings.failFast then (settledIn c settings world id).complaint?.map (Fault.failFast id)
  else none

def attestation? (settings : PipelineSettings) : ItemOutcome → Option Attestation
  | .verified _ attestation => if settings.saveMetadata then some attestation else none
  | _ => none

def upTo {α : Type} (stops : α → Bool) : List α → List α
  | [] => []
  | a :: l => a :: if stops a then [] else upTo stops l

def takenIn (c : Collaborators σ) (settings : PipelineSettings) (world : σ)
    (ids : List ContractIdentity) : List ContractIdentity :=
  upTo (fun id => (stopIn c settings world id).isSome) ids

def savesIn (c : Collaborators σ) (settings : PipelineSettings) (world : σ)
    (ids : List ContractIdentity) : List (ContractIdentity × Attestation) :=
  (takenIn c settings world ids).filterMap fun id =>
    (attestation? settings (outcomeIn c settings world id)).map fun attestation =>
      (id, attestation)

def tally (outcomes : List ItemOutcome) : Summary where
  verified := outcomes.countP fun outcome => outcome matches .verified _ _
  unverified := outcomes.countP fun outcome => outcome matches .unverified _
  skipped := outcomes.countP fun outcome => outcome matches .skipped
  jumped := outcomes.countP fun outcome => outcome matches .jumped
  failed := outcomes.countP fun outcome => outcome matches .failed _

theorem record_tally (outcomes : List ItemOutcome) (outcome : ItemOutcome) :
    (tally outcomes).record outcome = tally (outcomes ++ [outcome]) := by
  cases outcome <;> simp [tally, Summary.record, List.countP_append]

theorem total_tally (outcomes : List ItemOutcome) : (tally outcomes).total = outcomes.length := by
  induction outcomes using List.reverseRec with
  | nil => rfl
  | append_singleton outcomes outcome ih =>
    rw [← record_tally, Summary.total_record, ih, List.length_append, List.length_singleton]

theorem oneByOne_append (c : Collaborators σ) (settings : PipelineSettings) (index : Nat)
    (front back : List ContractIdentity) (course : Course σ) :
    oneByOne c settings index (front ++ back) course =
      match oneByOne c settings index front course with
      | (course, none) => oneByOne c settings (index + front.length) back course
      | (course, some fault) => (course, some fault) := by
  induction front generalizing index course with
  | nil => rfl
  | cons id front ih =>
    rw [List.cons_append, oneByOne, oneByOne]
    dsimp only
    rcases take c settings (course.act (verifyContract c settings.force id)).1 index id
      (course.act (verifyContract c settings.force id)).2 with ⟨course', _ | fault⟩
    · dsimp only
      rw [ih, List.length_cons, Nat.add_right_comm, Nat.add_assoc]
    · rfl

/-- Saving is the only call of `settle`, and it is made where something is to be
saved. -/
theorem run_settle (c : Collaborators σ) (settings : PipelineSettings) (id : ContractIdentity)
    (outcome : ItemOutcome) (w : σ) : (settle c settings id outcome).run w =
      match attestation? settings outcome with
      | none => (outcome, w)
      | some attestation =>
        (match ((c.save id attestation).run w).1 with
          | .ok _ => outcome
          | .error text => .failed (.store text),
        ((c.save id attestation).run w).2) := by
  cases outcome with
  | verified verdict attestation =>
    unfold settle attestation?
    by_cases hsave : settings.saveMetadata = true
    · simp only [hsave, if_true]
      rw [StateT.run_bind]
      rcases (c.save id attestation).run w with ⟨_ | _, w'⟩
      · rfl
      · rfl
    · simp only [hsave, Bool.false_eq_true, if_false]
      rfl
  | skipped => rfl
  | jumped => rfl
  | unverified verdict => rfl
  | failed cause => rfl

namespace Outlook

variable {o : Outlook σ μ κ} {c : Collaborators σ}

/-- What a contract is settled to, and what is saved of it then, goes by what is
saved of it. -/
theorem Local.settle_own (hc : o.Local c) (settings : PipelineSettings) (id : ContractIdentity)
    (outcome : ItemOutcome) {w w' : σ} (h : o.saved id w = o.saved id w') :
    ((settle c settings id outcome).run w).1 = ((settle c settings id outcome).run w').1 ∧
      o.saved id ((settle c settings id outcome).run w).2 =
        o.saved id ((settle c settings id outcome).run w').2 := by
  rw [run_settle, run_settle]
  cases attestation? settings outcome with
  | none => exact ⟨rfl, h⟩
  | some attestation =>
    obtain ⟨hanswer, hsaved⟩ := hc.save id attestation w w' h
    dsimp only
    rw [hanswer]
    exact ⟨rfl, hsaved⟩

theorem Local.settle_other (hc : o.Local c) (settings : PipelineSettings)
    {id other : ContractIdentity} (hne : other ≠ id) (outcome : ItemOutcome) (w : σ) :
    o.saved other ((settle c settings id outcome).run w).2 = o.saved other w := by
  rw [run_settle]
  cases attestation? settings outcome with
  | none => rfl
  | some attestation => exact hc.save_other id attestation w other hne

theorem Local.settle_journal (hc : o.Local c) (settings : PipelineSettings)
    (id : ContractIdentity) (outcome : ItemOutcome) (w : σ) :
    o.journal ((settle c settings id outcome).run w).2 =
      match attestation? settings outcome with
      | none => o.journal w
      | some attestation => o.enter (o.journal w) id attestation := by
  rw [run_settle]
  cases attestation? settings outcome with
  | none => rfl
  | some attestation => exact hc.save_journal id attestation w

/-- Courses that agree: the same can be seen of their worlds, and the same was
counted and reported. -/
structure Agree (o : Outlook σ μ κ) (course course' : Course σ) : Prop where
  world : o.Same course.world course'.world
  summary : course.summary = course'.summary
  reports : course.reports = course'.reports

theorem Agree.symm {course course' : Course σ} (h : o.Agree course course') :
    o.Agree course' course :=
  ⟨h.world.symm, h.summary.symm, h.reports.symm⟩

theorem Agree.trans {course course' course'' : Course σ} (h : o.Agree course course')
    (h' : o.Agree course' course'') : o.Agree course course'' :=
  ⟨h.world.trans h'.world, h.summary.trans h'.summary, h.reports.trans h'.reports⟩

/-- An outcome taken in courses that agree leaves them in agreement. -/
theorem Local.take_agree (hc : o.Local c) (settings : PipelineSettings)
    {course course' : Course σ} (h : o.Agree course course') (index : Nat)
    (id : ContractIdentity) (outcome : ItemOutcome) :
    o.Agree (take c settings course index id outcome).1
        (take c settings course' index id outcome).1 ∧
      (take c settings course index id outcome).2 =
        (take c settings course' index id outcome).2 := by
  obtain ⟨hsettled, hown⟩ :=
    hc.settle_own settings id outcome (h.world.saved id)
  have hworld : o.Same ((settle c settings id outcome).run course.world).2
      ((settle c settings id outcome).run course'.world).2 := by
    constructor
    · intro other
      by_cases hother : other = id
      · rw [hother]
        exact hown
      · rw [hc.settle_other settings hother, hc.settle_other settings hother]
        exact h.world.saved other
    · rw [hc.settle_journal settings, hc.settle_journal settings, h.world.journal]
  clear hown
  unfold take
  generalize (settle c settings id outcome).run course.world = ran at hsettled hworld ⊢
  generalize (settle c settings id outcome).run course'.world = ran' at hsettled hworld ⊢
  obtain ⟨settled, world⟩ := ran
  obtain ⟨settled', world'⟩ := ran'
  obtain rfl : settled = settled' := hsettled
  dsimp only
  rw [h.summary, h.reports]
  exact ⟨⟨hworld, rfl, rfl⟩, rfl⟩

theorem Local.verifyContract (hc : o.Local c) (force : Bool) (id : ContractIdentity) :
    o.Reads id (verifyContract c force id) := by
  have hleads (w : σ) : o.Leads id (o.saved id w) ((Pipeline.verifyContract c force id).run w).1
      (verifying c force id) := by
    rw [← run_verifying]
    exact steady_verifying hc force w rfl
  constructor
  · intro w w' h
    have := ((hleads w).run h.symm).1
    rw [run_verifying] at this
    exact this.symm
  · intro w
    have := ((hleads w).run rfl).2
    rwa [run_verifying] at this

/-- A contract that is verified where what is saved of it is as before the run. -/
theorem Local.act_verify (hc : o.Local c) (settings : PipelineSettings) {course : Course σ}
    {world : σ} {id : ContractIdentity} (h : o.saved id course.world = o.saved id world) :
    ∃ turned : Course σ, o.Agree turned course ∧
      course.act (Pipeline.verifyContract c settings.force id) =
        (turned, outcomeIn c settings world id) := by
  have hreads := hc.verifyContract settings.force id
  refine ⟨{ course with
    world := ((Pipeline.verifyContract c settings.force id).run course.world).2 },
    ⟨hreads.same course.world, rfl, rfl⟩, ?_⟩
  rw [outcomeIn, ← hreads.answer course.world world h]
  rfl

/-- Contracts see and change what is saved of them alone. -/
theorem Local.oneByOne_other (hc : o.Local c) (settings : PipelineSettings) (index : Nat)
    (ids : List ContractIdentity) (course : Course σ) {other : ContractIdentity} (h : other ∉ ids) :
    o.saved other (oneByOne c settings index ids course).1.world = o.saved other course.world := by
  induction ids generalizing index course with
  | nil => rfl
  | cons id ids ih =>
    rw [List.mem_cons, not_or] at h
    obtain ⟨turned, hturned, hact⟩ :=
      hc.act_verify settings (rfl : o.saved id course.world = o.saved id course.world)
    have htaken : o.saved other (take c settings turned index id
        (outcomeIn c settings course.world id)).1.world = o.saved other course.world :=
      (hc.settle_other settings h.1 _ _).trans (hturned.world.saved other)
    rw [oneByOne, hact]
    dsimp only
    rcases htake : take c settings turned index id (outcomeIn c settings course.world id) with
      ⟨taken, _ | fault⟩
    · dsimp only
      rw [ih (index + 1) taken h.2, ← htaken, htake]
    · dsimp only
      rw [← htaken, htake]

/-- A contract taken where what is saved of it is as before the run: it settles
and stops as it would there, and nothing changes for other contracts. -/
theorem Local.take_spec (hc : o.Local c) (settings : PipelineSettings) {course : Course σ}
    {world : σ} {id : ContractIdentity} (h : o.saved id course.world = o.saved id world)
    (index : Nat) :
    ∃ next, take c settings course index id (outcomeIn c settings world id) =
        (next, stopIn c settings world id) ∧
      next.summary = course.summary.record (settledIn c settings world id) ∧
      (o.journal next.world =
        match attestation? settings (outcomeIn c settings world id) with
        | none => o.journal course.world
        | some attestation => o.enter (o.journal course.world) id attestation) ∧
      o.saved id next.world =
        o.saved id ((settle c settings id (outcomeIn c settings world id)).run world).2 ∧
      ∀ other, other ≠ id → o.saved other next.world = o.saved other course.world := by
  obtain ⟨hsettled, hown⟩ :=
    hc.settle_own settings id (outcomeIn c settings world id) h
  refine ⟨(take c settings course index id (outcomeIn c settings world id)).1, ?_, ?_, ?_, hown, ?_⟩
  · refine Prod.ext rfl ?_
    change (if settings.failFast then
      ((settle c settings id (outcomeIn c settings world id)).run course.world).1.complaint?.map
        (Fault.failFast id) else none) = _
    rw [hsettled]
    rfl
  · change course.summary.record
      ((settle c settings id (outcomeIn c settings world id)).run course.world).1 = _
    rw [hsettled]
    rfl
  · exact hc.settle_journal settings id _ course.world
  · exact fun other hother => hc.settle_other settings hother _ course.world

theorem mem_of_mem_upTo {α : Type} {stops : α → Bool} {l : List α} {a : α} (h : a ∈ upTo stops l) :
    a ∈ l := by
  induction l with
  | nil => exact h
  | cons b l ih =>
    rw [upTo] at h
    rcases List.mem_cons.1 h with rfl | h
    · exact List.mem_cons_self
    · split at h
      · cases h
      · exact List.mem_cons_of_mem b (ih h)

/-- What a run one by one comes to, by what each contract comes to in the world
before the run. -/
theorem Local.oneByOne_spec (hc : o.Local c) (settings : PipelineSettings) {world : σ}
    {ids : List ContractIdentity} (hdistinct : ids.Nodup) (index : Nat) (course : Course σ)
    (h : ∀ id ∈ ids, o.saved id course.world = o.saved id world) (before : List ItemOutcome)
    (hbefore : course.summary = tally before) :
    (oneByOne c settings index ids course).2 = ids.findSome? (stopIn c settings world) ∧
    (oneByOne c settings index ids course).1.summary =
      tally (before ++ (takenIn c settings world ids).map (settledIn c settings world)) ∧
    o.journal (oneByOne c settings index ids course).1.world =
      (savesIn c settings world ids).foldl (fun journal entry => o.enter journal entry.1 entry.2)
        (o.journal course.world) ∧
    ∀ id, o.saved id (oneByOne c settings index ids course).1.world =
      if id ∈ takenIn c settings world ids then
        o.saved id ((settle c settings id (outcomeIn c settings world id)).run world).2
      else o.saved id course.world := by
  induction ids generalizing index course before with
  | nil =>
    refine ⟨rfl, ?_, rfl, fun id => rfl⟩
    rw [takenIn, upTo, List.map_nil, List.append_nil]
    exact hbefore
  | cons id ids ih =>
    obtain ⟨hnew, hrest⟩ := List.nodup_cons.1 hdistinct
    obtain ⟨turned, hturned, hact⟩ :=
      hc.act_verify settings (h id List.mem_cons_self)
    have hown : o.saved id turned.world = o.saved id world :=
      (hturned.world.saved id).trans (h id List.mem_cons_self)
    obtain ⟨next, htake, hsummary, hjournal, hsaved, hothers⟩ :=
      hc.take_spec settings hown index
    rw [hturned.summary, hbefore, record_tally] at hsummary
    rw [hturned.world.journal] at hjournal
    have hsame (other : ContractIdentity) (hother : other ≠ id) :
        o.saved other next.world = o.saved other course.world :=
      (hothers other hother).trans (hturned.world.saved other)
    rw [oneByOne, hact]
    dsimp only
    rw [htake, List.findSome?_cons]
    cases hstop : stopIn c settings world id with
    | some fault =>
      have htaken : takenIn c settings world (id :: ids) = [id] := by
        simp only [takenIn, upTo, hstop, Option.isSome_some, if_true]
      rw [savesIn, htaken]
      refine ⟨rfl, hsummary, ?_, ?_⟩
      · dsimp only
        rw [hjournal]
        cases hsave : attestation? settings (outcomeIn c settings world id) with
        | none => simp [hsave]
        | some attestation => simp [hsave]
      · intro other
        by_cases hother : other = id
        · rw [if_pos (List.mem_singleton.2 hother), hother]
          exact hsaved
        · rw [if_neg (fun hmem => hother (List.mem_singleton.1 hmem))]
          exact hsame other hother
    | none =>
      have htaken : takenIn c settings world (id :: ids) = id :: takenIn c settings world ids := by
        simp only [takenIn, upTo, hstop, Option.isSome_none, Bool.false_eq_true, if_false]
      have hunseen (other : ContractIdentity) (hother : other ∈ ids) : other ≠ id := by
        rintro rfl
        exact hnew hother
      obtain ⟨hstopped, hsummary', hjournal', hsaved'⟩ := ih hrest (index + 1) next
        (fun other hother => (hsame other (hunseen other hother)).trans
          (h other (List.mem_cons_of_mem id hother))) _ hsummary
      rw [savesIn, htaken]
      refine ⟨hstopped, ?_, ?_, ?_⟩
      · rw [hsummary', List.map_cons, List.append_assoc]
        rfl
      · rw [hjournal', hjournal, savesIn]
        cases hsave : attestation? settings (outcomeIn c settings world id) with
        | none => simp [hsave]
        | some attestation => simp [hsave]
      · intro other
        rw [hsaved' other]
        by_cases hother : other = id
        · have hnone : other ∉ takenIn c settings world ids := fun hmem =>
            hunseen other (mem_of_mem_upTo hmem) hother
          rw [if_neg hnone, if_pos (hother ▸ List.mem_cons_self), hother]
          exact hsaved
        · have hiff : other ∈ id :: takenIn c settings world ids ↔
              other ∈ takenIn c settings world ids := by
            rw [List.mem_cons]
            exact or_iff_right hother
          rw [hsame other hother]
          exact if_congr hiff.symm rfl rfl

/-- What is reported of a contract that was taken is what it comes to in the world before
the run. -/
theorem Local.oneByOne_reports (hc : o.Local c) (settings : PipelineSettings) {world : σ}
    {ids : List ContractIdentity} (hdistinct : ids.Nodup) (index : Nat) (course : Course σ)
    (h : ∀ id ∈ ids, o.saved id course.world = o.saved id world) {report : Report}
    (hreport : report ∈ (oneByOne c settings index ids course).1.reports) :
    report ∈ course.reports ∨ report.id ∈ takenIn c settings world ids ∧
      report.outcome = outcomeIn c settings world report.id := by
  induction ids generalizing index course with
  | nil => exact .inl hreport
  | cons id ids ih =>
    obtain ⟨hnew, hrest⟩ := List.nodup_cons.1 hdistinct
    obtain ⟨turned, hturned, hact⟩ := hc.act_verify settings (h id List.mem_cons_self)
    have hown : o.saved id turned.world = o.saved id world :=
      (hturned.world.saved id).trans (h id List.mem_cons_self)
    obtain ⟨next, htake, -, -, -, hothers⟩ := hc.take_spec settings hown index
    have hhere (hmem : report ∈ next.reports) : report ∈ course.reports ∨
        report.id = id ∧ report.outcome = outcomeIn c settings world report.id := by
      obtain ⟨stopped, summary, hreports⟩ : ∃ stopped summary, next.reports =
          turned.reports ++ [⟨id, index, outcomeIn c settings world id, stopped, summary⟩] :=
        ⟨_, _, (congrArg (fun ended => ended.1.reports) htake).symm⟩
      rw [hreports, hturned.reports] at hmem
      rcases List.mem_append.1 hmem with hold | hlast
      · exact .inl hold
      · obtain rfl := List.mem_singleton.1 hlast
        exact .inr ⟨rfl, rfl⟩
    have hunseen (other : ContractIdentity) (hother : other ∈ ids) :
        o.saved other next.world = o.saved other world := by
      have hne : other ≠ id := by
        rintro rfl
        exact hnew hother
      exact ((hothers other hne).trans (hturned.world.saved other)).trans
        (h other (List.mem_cons_of_mem id hother))
    rw [oneByOne, hact] at hreport
    dsimp only at hreport
    rw [htake] at hreport
    rw [takenIn, upTo]
    cases hstop : stopIn c settings world id with
    | none =>
      rw [hstop] at hreport
      rcases ih hrest (index + 1) next hunseen hreport with hmem | ⟨hmem, houtcome⟩
      · refine (hhere hmem).imp_right fun ⟨hid, houtcome⟩ => ⟨?_, houtcome⟩
        exact hid ▸ List.mem_cons_self
      · exact .inr ⟨List.mem_cons_of_mem id hmem, houtcome⟩
    | some fault =>
      rw [hstop] at hreport
      refine (hhere hreport).imp_right fun ⟨hid, houtcome⟩ => ⟨?_, houtcome⟩
      exact hid ▸ List.mem_cons_self

end Outlook

/-- What a run comes to by what each contract comes to in the world before it. -/
structure Accounts (o : Outlook σ μ κ) (c : Collaborators σ) (settings : PipelineSettings)
    (ids : List ContractIdentity) (world : σ) (ended : Course σ × Option Fault) : Prop where
  /-- The first contract with a complaint stops it, if any is to. -/
  stopped : ended.2 = ids.findSome? (stopIn c settings world)
  summary : ended.1.summary =
    tally ((takenIn c settings world ids).map (settledIn c settings world))
  total : ended.2 = none → ended.1.summary.total = ids.length
  journal : o.journal ended.1.world = (savesIn c settings world ids).foldl
    (fun journal entry => o.enter journal entry.1 entry.2) (o.journal world)
  unsaved : settings.saveMetadata = false → savesIn c settings world ids = []
  saved : ∀ id, o.saved id ended.1.world =
    if id ∈ takenIn c settings world ids then
      o.saved id ((settle c settings id (outcomeIn c settings world id)).run world).2
    else o.saved id world

theorem upTo_eq_self {α : Type} {stops : α → Bool} {l : List α}
    (h : ∀ a ∈ l, stops a = false) : upTo stops l = l := by
  induction l with
  | nil => rfl
  | cons a l ih =>
    rw [upTo, h a List.mem_cons_self, ih fun b hb => h b (List.mem_cons_of_mem a hb)]
    rfl

theorem savesIn_eq_nil (c : Collaborators σ) {settings : PipelineSettings}
    (h : settings.saveMetadata = false) (world : σ) (ids : List ContractIdentity) :
    savesIn c settings world ids = [] := by
  refine List.filterMap_eq_nil_iff.2 fun id _ => ?_
  have hnone : attestation? settings (outcomeIn c settings world id) = none := by
    unfold attestation?
    split
    · rw [if_neg (by rw [h]; decide)]
    · rfl
  rw [hnone]
  rfl

/-- One by one, a run comes to what its contracts come to. -/
theorem Outlook.Local.accounts_oneByOne {o : Outlook σ μ κ} {c : Collaborators σ} (hc : o.Local c)
    {settings : PipelineSettings} {ids : List ContractIdentity} (hdistinct : ids.Nodup)
    {world : σ} :
    Accounts o c settings ids world (oneByOne c settings 0 ids { world }) := by
  obtain ⟨hstopped, hsummary, hjournal, hsaved⟩ :=
    hc.oneByOne_spec settings hdistinct 0 { world } (fun _ _ => rfl) [] rfl
  refine ⟨hstopped, hsummary, ?_, hjournal, fun h => savesIn_eq_nil c h world ids, hsaved⟩
  intro hnone
  rw [hnone] at hstopped
  have hnever (id : ContractIdentity) (hid : id ∈ ids) :
      (stopIn c settings world id).isSome = false := by
    rw [List.findSome?_eq_none_iff.1 hstopped.symm id hid]
    rfl
  rw [hsummary, total_tally, List.nil_append, List.length_map, takenIn, upTo_eq_self hnever]

end Provenance.Pipeline
