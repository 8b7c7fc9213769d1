import Provenance.Execution.Portable
import Provenance.Proofs.Execution.Sides

/-!
Both sides over two streams of bytes. What a side has written reaches the other one
in chunks of any size, at any time, in the order in which it was written; then the
end of the stream does, once the side is done. No time runs out: a side waits as long
as it takes. Writing does not fail, since no side writes to one that has returned.
However the chunks are cut, the exchange comes to rest.
-/

namespace Provenance.Execution

/-- Two sides: the work and the cap of the one that gives it, how long the worker
would wait, and its compiler. -/
structure Parties where
  task : Task
  limit : Nat
  timeout : Duration
  compile : Compile

structure Exchange where
  toWorker : Stream
  toParent : Stream

def Exchange.start : Exchange := ⟨⟨[], false⟩, ⟨[], false⟩⟩

namespace Parties

variable (p : Parties)

def session (s : Exchange) : Session ParentMessage Json := p.task.drive p.limit s.toParent {}

def service (s : Exchange) : Service := serve p.timeout p.compile s.toWorker {}

def calls (s : Exchange) : List (String × Json) :=
  (serveRecorded p.timeout p.compile s.toWorker {}).2

def forWorker (s : Exchange) : Bytes :=
  linesOf ((p.session s).outlet.written.map ParentMessage.toJson)

def forParent (s : Exchange) : Bytes :=
  linesOf ((p.service s).outlet.written.map WorkerMessage.toJson)

def ParentIsDone (s : Exchange) : Prop := (p.session s).result.isSome

def WorkerIsDone (s : Exchange) : Prop := (p.service s).waited = ⟨0⟩

/-- What can happen next: a chunk arrives, or the end of a stream whose writer has
returned. The side that gives the work need not close its stream. -/
inductive Step : Exchange → Exchange → Prop where
  | toWorker {s : Exchange} {chunk : Bytes} (hchunk : chunk ≠ [])
      (hopen : s.toWorker.closed = false)
      (hwritten : s.toWorker.arrived ++ chunk <+: p.forWorker s) :
      Step s { s with toWorker := ⟨s.toWorker.arrived ++ chunk, false⟩ }
  | toParent {s : Exchange} {chunk : Bytes} (hchunk : chunk ≠ [])
      (hopen : s.toParent.closed = false)
      (hwritten : s.toParent.arrived ++ chunk <+: p.forParent s) :
      Step s { s with toParent := ⟨s.toParent.arrived ++ chunk, false⟩ }
  | workerCloses {s : Exchange} (hopen : s.toParent.closed = false) (hdone : p.WorkerIsDone s)
      (hall : s.toParent.arrived = p.forParent s) :
      Step s { s with toParent := ⟨s.toParent.arrived, true⟩ }
  | parentCloses {s : Exchange} (hopen : s.toWorker.closed = false) (hdone : p.ParentIsDone s)
      (hall : s.toWorker.arrived = p.forWorker s) :
      Step s { s with toWorker := ⟨s.toWorker.arrived, true⟩ }

def Reaches : Exchange → Exchange → Prop := Relation.ReflTransGen p.Step

/-- All that was written has arrived, and so has the end of the worker's stream if
the worker has returned. -/
structure AtRest (s : Exchange) : Prop where
  toWorker : s.toWorker.arrived = p.forWorker s
  toParent : s.toParent.arrived = p.forParent s
  closed : p.WorkerIsDone s → s.toParent.closed = true

/-- However the exchange goes on, it comes to where `Q` holds. -/
inductive Inevitably (Q : Exchange → Prop) : Exchange → Prop where
  | now {s : Exchange} (h : Q s) : Inevitably Q s
  | later {s : Exchange} (hgoes : ∃ s', p.Step s s')
      (h : ∀ s', p.Step s s' → Inevitably Q s') : Inevitably Q s

theorem serveRecorded_toWorker (s : Exchange) :
    serveRecorded p.timeout p.compile s.toWorker {} = (p.service s, p.calls s) :=
  Prod.ext (serveRecorded_fst _ _ _ _) rfl

/-! A step keeps what was done -/

variable {p} {s s' : Exchange}

theorem Step.isBefore (h : p.Step s s') :
    s.toWorker.IsBefore s'.toWorker ∧ s.toParent.IsBefore s'.toParent := by
  cases h with
  | toWorker _ hopen _ => exact ⟨.inr ⟨hopen, List.prefix_append _ _⟩, .inl rfl⟩
  | toParent _ hopen _ => exact ⟨.inl rfl, .inr ⟨hopen, List.prefix_append _ _⟩⟩
  | workerCloses hopen _ _ => exact ⟨.inl rfl, .inr ⟨hopen, List.prefix_rfl⟩⟩
  | parentCloses hopen _ _ => exact ⟨.inr ⟨hopen, List.prefix_rfl⟩, .inl rfl⟩

theorem Step.session_isBefore (h : p.Step s s') : (p.session s).IsBefore (p.session s') :=
  p.task.drive_later p.limit h.isBefore.2 {}

theorem Step.serving_isBefore (h : p.Step s s') :
    IsBeforeServing p.timeout (p.service s, p.calls s) (p.service s', p.calls s') := by
  have hlater := serveRecorded_later h.isBefore.1 p.timeout p.compile {}
  rwa [serveRecorded_toWorker, serveRecorded_toWorker] at hlater

/-- What was written for the worker stays in front of all that is. -/
theorem Step.session_written (h : p.Step s s') :
    (p.session s).outlet.written <+: (p.session s').outlet.written := by
  rcases h.session_isBefore with heq | ⟨-, hextends⟩
  · rw [heq]
  · exact hextends

theorem Step.service_written (h : p.Step s s') :
    (p.service s).outlet.written <+: (p.service s').outlet.written := by
  rcases h.serving_isBefore with heq | ⟨-, hextends, -⟩
  · rw [(Prod.mk.inj heq).1]
  · exact hextends

/-- No call of the compiler is taken back. -/
theorem Step.calls_extend (h : p.Step s s') : p.calls s <+: p.calls s' := by
  rcases h.serving_isBefore with heq | ⟨-, -, hextends⟩
  · rw [(Prod.mk.inj heq).2]
  · exact hextends

/-- A side that has returned does not change. -/
theorem Step.session_eq (h : p.Step s s') (hdone : p.ParentIsDone s) :
    p.session s' = p.session s := by
  rcases h.session_isBefore with heq | ⟨hnone, -⟩
  · exact heq.symm
  · rw [ParentIsDone, hnone] at hdone
    cases hdone

theorem Step.service_eq (h : p.Step s s') (htimeout : p.timeout ≠ ⟨0⟩) (hdone : p.WorkerIsDone s) :
    p.service s' = p.service s := by
  rcases h.serving_isBefore with heq | ⟨hwaited, -⟩
  · exact (Prod.mk.inj heq).1.symm
  · exact absurd (hwaited.symm.trans hdone) htimeout

theorem Reaches.service_written (h : p.Reaches s s') :
    (p.service s).outlet.written <+: (p.service s').outlet.written := by
  induction h with
  | refl => exact List.prefix_rfl
  | tail _ hstep ih => exact ih.trans hstep.service_written

theorem Reaches.calls_extend (h : p.Reaches s s') : p.calls s <+: p.calls s' := by
  induction h with
  | refl => exact List.prefix_rfl
  | tail _ hstep ih => exact ih.trans hstep.calls_extend

theorem linesOf_extends {messages messages' : List Json} (h : messages <+: messages') :
    linesOf messages <+: linesOf messages' := by
  obtain ⟨more, rfl⟩ := h
  exact ⟨linesOf more, List.flatMap_append.symm⟩

theorem Step.forWorker_extends (h : p.Step s s') : p.forWorker s <+: p.forWorker s' :=
  linesOf_extends (h.session_written.map _)

theorem Step.forParent_extends (h : p.Step s s') : p.forParent s <+: p.forParent s' :=
  linesOf_extends (h.service_written.map _)

/-! What arrives is what was written -/

structure Consistent (p : Parties) (s : Exchange) : Prop where
  toWorker : s.toWorker.arrived <+: p.forWorker s
  toParent : s.toParent.arrived <+: p.forParent s
  workerStream : s.toWorker.closed = true →
    p.ParentIsDone s ∧ s.toWorker.arrived = p.forWorker s
  parentStream : s.toParent.closed = true →
    p.WorkerIsDone s ∧ s.toParent.arrived = p.forParent s

theorem consistent_start (p : Parties) : p.Consistent .start where
  toWorker := List.nil_prefix
  toParent := List.nil_prefix
  workerStream h := by cases h
  parentStream h := by cases h

theorem forWorker_eq (h : p.Step s s') (hdone : p.ParentIsDone s) :
    p.forWorker s' = p.forWorker s := by
  rw [forWorker, h.session_eq hdone, forWorker]

theorem forParent_eq (h : p.Step s s') (htimeout : p.timeout ≠ ⟨0⟩) (hdone : p.WorkerIsDone s) :
    p.forParent s' = p.forParent s := by
  rw [forParent, h.service_eq htimeout hdone, forParent]

theorem Step.parentIsDone (h : p.Step s s') (hdone : p.ParentIsDone s) : p.ParentIsDone s' := by
  rwa [ParentIsDone, h.session_eq hdone]

theorem Step.workerIsDone (h : p.Step s s') (htimeout : p.timeout ≠ ⟨0⟩)
    (hdone : p.WorkerIsDone s) : p.WorkerIsDone s' := by
  rwa [WorkerIsDone, h.service_eq htimeout hdone]

theorem Step.consistent (h : p.Step s s') (htimeout : p.timeout ≠ ⟨0⟩) (hs : p.Consistent s) :
    p.Consistent s' := by
  have hworker : s.toWorker.closed = true →
      p.ParentIsDone s' ∧ s.toWorker.arrived = p.forWorker s' := by
    intro hclosed
    obtain ⟨hdone, hall⟩ := hs.workerStream hclosed
    exact ⟨h.parentIsDone hdone, hall.trans (forWorker_eq h hdone).symm⟩
  have hparent : s.toParent.closed = true →
      p.WorkerIsDone s' ∧ s.toParent.arrived = p.forParent s' := by
    intro hclosed
    obtain ⟨hdone, hall⟩ := hs.parentStream hclosed
    exact ⟨h.workerIsDone htimeout hdone, hall.trans (forParent_eq h htimeout hdone).symm⟩
  have htoWorker := hs.toWorker.trans h.forWorker_extends
  have htoParent := hs.toParent.trans h.forParent_extends
  have hstep := h
  cases h with
  | toWorker _ _ hwritten =>
    exact ⟨hwritten.trans hstep.forWorker_extends, htoParent, by simp, hparent⟩
  | toParent _ _ hwritten =>
    exact ⟨htoWorker, hwritten.trans hstep.forParent_extends, hworker, by simp⟩
  | workerCloses _ hdone hall =>
    exact ⟨htoWorker, htoParent, hworker, fun _ =>
      ⟨hstep.workerIsDone htimeout hdone, hall.trans (forParent_eq hstep htimeout hdone).symm⟩⟩
  | parentCloses _ hdone hall =>
    exact ⟨htoWorker, htoParent, fun _ =>
      ⟨hstep.parentIsDone hdone, hall.trans (forWorker_eq hstep hdone).symm⟩, hparent⟩

theorem Reaches.consistent (h : p.Reaches s s') (htimeout : p.timeout ≠ ⟨0⟩)
    (hs : p.Consistent s) : p.Consistent s' := by
  induction h with
  | refl => exact hs
  | tail _ hstep ih => exact hstep.consistent htimeout ih

/-! Every exchange comes to rest -/

def unwritten (p : Parties) (s : Exchange) : Nat :=
  4 - ((p.session s).outlet.written.length + (p.service s).outlet.written.length)

/-- How much of what was written has not arrived: bytes, and ends of streams. -/
def pending (p : Parties) (s : Exchange) : Nat :=
  ((p.forWorker s).length - s.toWorker.arrived.length) + (!s.toWorker.closed).toNat +
    (((p.forParent s).length - s.toParent.arrived.length) + (!s.toParent.closed).toNat)

/-- A chunk that was written and arrives is pending no more. -/
theorem pending_chunk {written arrived chunk : Bytes} (hchunk : chunk ≠ [])
    (hwritten : arrived ++ chunk <+: written) :
    written.length - (arrived ++ chunk).length < written.length - arrived.length := by
  have hlength := hwritten.length_le
  have hpos := List.length_pos_iff.mpr hchunk
  rw [List.length_append] at hlength ⊢
  omega

/-- A step writes another message, or brings what was written nearer. -/
theorem Step.decreases (h : p.Step s s') :
    p.unwritten s' < p.unwritten s ∨
      p.unwritten s' = p.unwritten s ∧ p.pending s' < p.pending s := by
  have hsession := p.task.drive_length p.limit s'.toParent {}
  have hservice := serve_length p.timeout p.compile s'.toWorker {}
  change (p.session s').outlet.written.length ≤ 2 at hsession
  change (p.service s').outlet.written.length ≤ 2 at hservice
  have hparent := h.session_written
  have hworker := h.service_written
  by_cases hnew : (p.session s').outlet.written.length = (p.session s).outlet.written.length ∧
      (p.service s').outlet.written.length = (p.service s).outlet.written.length
  · have hforWorker : p.forWorker s' = p.forWorker s := by
      rw [forWorker, ← hparent.eq_of_length hnew.1.symm, forWorker]
    have hforParent : p.forParent s' = p.forParent s := by
      rw [forParent, ← hworker.eq_of_length hnew.2.symm, forParent]
    refine .inr ⟨by rw [unwritten, hnew.1, hnew.2, unwritten], ?_⟩
    rw [pending, hforWorker, hforParent, pending]
    cases h with
    | toWorker hchunk hopen hwritten =>
      have := pending_chunk hchunk hwritten
      simp only [hopen]
      omega
    | toParent hchunk hopen hwritten =>
      have := pending_chunk hchunk hwritten
      simp only [hopen]
      omega
    | workerCloses hopen _ _ =>
      simp only [hopen, Bool.not_true, Bool.not_false, Bool.toNat_true, Bool.toNat_false]
      omega
    | parentCloses hopen _ _ =>
      simp only [hopen, Bool.not_true, Bool.not_false, Bool.toNat_true, Bool.toNat_false]
      omega
  · have := hparent.length_le
    have := hworker.length_le
    refine .inl ?_
    rw [unwritten, unwritten]
    omega

/-- No exchange goes on for ever. -/
theorem wellFounded_step (p : Parties) : WellFounded fun s' s => p.Step s s' := by
  refine Subrelation.wf (r := InvImage (Prod.Lex (· < ·) (· < ·))
    fun s => (p.unwritten s, p.pending s)) ?_ (InvImage.wf _ (Prod.lex Nat.lt_wfRel Nat.lt_wfRel).wf)
  intro s' s h
  rcases h.decreases with hless | ⟨heq, hless⟩
  · exact Prod.Lex.left _ _ hless
  · rw [InvImage, heq]
    exact Prod.Lex.right _ hless

theorem exists_chunk {arrived written : Bytes} (h : arrived <+: written) (hne : arrived ≠ written) :
    ∃ chunk, chunk ≠ [] ∧ arrived ++ chunk <+: written := by
  obtain ⟨chunk, rfl⟩ := h
  exact ⟨chunk, by rintro rfl; simp at hne, List.prefix_rfl⟩

/-- As long as an exchange is not at rest, it goes on: no side waits for what does
not come. -/
theorem Consistent.exists_step (hs : p.Consistent s) (h : ¬ p.AtRest s) : ∃ s', p.Step s s' := by
  by_cases hworker : s.toWorker.arrived = p.forWorker s
  · by_cases hparent : s.toParent.arrived = p.forParent s
    · by_cases hdone : p.WorkerIsDone s
      · cases hclosed : s.toParent.closed with
        | false => exact ⟨_, .workerCloses hclosed hdone hparent⟩
        | true => exact absurd ⟨hworker, hparent, fun _ => hclosed⟩ h
      · exact absurd ⟨hworker, hparent, fun hd => absurd hd hdone⟩ h
    · obtain ⟨chunk, hchunk, hwritten⟩ := exists_chunk hs.toParent hparent
      have hopen : s.toParent.closed = false :=
        Bool.eq_false_iff.mpr fun hclosed => hparent (hs.parentStream hclosed).2
      exact ⟨_, .toParent hchunk hopen hwritten⟩
  · obtain ⟨chunk, hchunk, hwritten⟩ := exists_chunk hs.toWorker hworker
    have hopen : s.toWorker.closed = false :=
      Bool.eq_false_iff.mpr fun hclosed => hworker (hs.workerStream hclosed).2
    exact ⟨_, .toWorker hchunk hopen hwritten⟩

/-- Every exchange comes to rest, however it goes. -/
theorem Consistent.inevitably_atRest (htimeout : p.timeout ≠ ⟨0⟩) (hs : p.Consistent s) :
    p.Inevitably p.AtRest s := by
  induction s using (wellFounded_step p).induction with
  | _ s ih =>
    by_cases hrest : p.AtRest s
    · exact .now hrest
    · exact .later (hs.exists_step hrest) fun s' hstep => ih s' hstep (hstep.consistent htimeout hs)

/-- Where every run comes to, some run does. -/
theorem Inevitably.exists_reaches {Q : Exchange → Prop} (h : p.Inevitably Q s) :
    ∃ s', p.Reaches s s' ∧ Q s' := by
  induction h with
  | now h => exact ⟨_, .refl, h⟩
  | later hgoes _ ih =>
    obtain ⟨s', hstep⟩ := hgoes
    obtain ⟨s'', hreaches, hq⟩ := ih s' hstep
    exact ⟨s'', .head hstep hreaches, hq⟩

end Parties

end Provenance.Execution
