import Provenance.Proofs.Queue.Draining
import Provenance.Proofs.Queue.Window

/-!
Who is at work, and how far ahead. Every worker is idle, holds one running item, or is
lost with its item, and a worker that comes back is the one that went. Items are
dispatched in their order, and never further than the window ahead of the oldest one
that is not delivered; as long as nothing has failed, a queue that waits has no idle
worker for an item inside the window.
-/

namespace Provenance.Queue

variable {α β ω σ ε π κ : Type}

/-- A task gives back the worker that it began with, as far as `ident` tells workers
apart. -/
def Crew.GivesBack (crew : Crew α β ω σ π) (ident : ω → κ) : Prop :=
  ∀ item worker p worker' output, crew.Comes item worker p →
    crew.ends item p (.completed worker' output) → ident worker' = ident worker

def Act.lost? : Act ε → Option Nat
  | .joined index isLost => if isLost then some index else none
  | _ => none

namespace State

def waiting (s : State α β ω σ ε) : List Nat :=
  s.slots.filterMap fun slot => slot.map fun result => result.1.index

def outstanding (s : State α β ω σ ε) : List Nat := s.running.map WorkItem.index ++ s.waiting

/-- What a dispatch does to the lists that it takes from. -/
theorem dispatch_takes (s : State α β ω σ ε) (now : Nat) : ∃ k ≤ s.pending.length,
    (s.dispatch now).2.map Prod.fst = (s.pending.take k).map (begun s.total now) ∧
      s.idle = (s.dispatch now).2.map Prod.snd ++ (s.dispatch now).1.idle ∧
      (s.dispatch now).1.pending = s.pending.drop k := by
  by_cases hfailure : s.failure = none
  · obtain ⟨k, hpending, hidle, heq, -, -⟩ := dispatchFrom_spec now s s.pending s.idle
    have hlength :
        ((s.pending.take k).map (begun s.total now)).length = (s.idle.take k).length := by
      rw [List.length_map, List.length_take, List.length_take, Nat.min_eq_left hpending,
        Nat.min_eq_left hidle]
    refine ⟨k, hpending, ?_⟩
    rw [dispatch_of_no_failure hfailure, heq]
    refine ⟨List.map_fst_zip (Nat.le_of_eq hlength), ?_, rfl⟩
    rw [List.map_snd_zip (Nat.le_of_eq hlength.symm)]
    exact (List.take_append_drop k s.idle).symm
  · rw [dispatch_of_failure hfailure]
    exact ⟨0, Nat.zero_le _, rfl, rfl, rfl⟩

namespace Sound

variable {s : State α β ω σ ε} {items : List α} {staff : Nat} {Good : WorkItem α → β → Prop}

/-- An item that waits is in the slot of its index, and does not run. -/
theorem of_waiting (hs : s.Sound items staff Good) {index : Nat}
    (h : index ∈ s.waiting) :
    s.head ≤ index ∧ index < s.dispatched ∧ ∀ other ∈ s.running, other.index ≠ index := by
  obtain ⟨slot, hslot, hindex⟩ := List.mem_filterMap.1 h
  obtain ⟨⟨item, output⟩, rfl, rfl⟩ := Option.map_eq_some_iff.1 hindex
  obtain ⟨i, hi, hat⟩ := List.mem_iff_getElem.1 hslot
  have hfailure : s.failure = none := by
    by_contra hfailed
    rw [hs.failed hfailed] at hslot
    cases hslot
  have hlength := hs.slots_length hfailure
  obtain ⟨hplace, -, hothers⟩ :=
    hs.slots_fit hfailure i (some (item, output)) (List.getElem?_eq_some_iff.2 ⟨hi, hat⟩)
  dsimp only at hplace ⊢
  rw [hplace]
  exact ⟨by omega, by omega, hothers⟩

/-- What is under way was dispatched and is not delivered. -/
theorem of_outstanding (hs : s.Sound items staff Good) {index : Nat} (h : index ∈ s.outstanding) :
    s.head ≤ index ∧ index < s.dispatched := by
  rcases List.mem_append.1 h with hrunning | hwaiting
  · obtain ⟨item, hitem, rfl⟩ := List.mem_map.1 hrunning
    exact ⟨hs.ahead item hitem, (hs.running item hitem).2⟩
  · obtain ⟨hle, hlt, -⟩ := hs.of_waiting hwaiting
    exact ⟨hle, hlt⟩

/-- Before a failure, all that was dispatched and is not delivered is under way. -/
theorem mem_outstanding_iff (hs : s.Sound items staff Good) (hfailure : s.failure = none)
    {index : Nat} : index ∈ s.outstanding ↔ s.head ≤ index ∧ index < s.dispatched := by
  constructor
  · exact hs.of_outstanding
  · rintro ⟨hle, hlt⟩
    have hlength := hs.slots_length hfailure
    have hi : index - s.head < s.slots.length := by omega
    have hat : s.slots[index - s.head]? = some s.slots[index - s.head] :=
      List.getElem?_eq_getElem hi
    have hfit := hs.slots_fit hfailure _ _ hat
    apply List.mem_append.2
    cases hslot : s.slots[index - s.head] with
    | none =>
      rw [hslot] at hfit
      obtain ⟨item, hitem, hindex⟩ := hfit
      exact .inl (List.mem_map.2 ⟨item, hitem, by omega⟩)
    | some result =>
      rw [hslot] at hfit
      have hindex := hfit.1
      refine .inr (List.mem_filterMap.2 ⟨some result, ?_, ?_⟩)
      · rw [← hslot]
        exact List.getElem_mem hi
      · rw [Option.map_some, hindex]
        congr 1
        omega

theorem waiting_nodup (hs : s.Sound items staff Good) : s.waiting.Nodup := by
  by_cases hfailure : s.failure = none
  · rw [waiting, List.Nodup, List.pairwise_filterMap, List.pairwise_iff_getElem]
    intro i j hi hj hij index hindex index' hindex'
    obtain ⟨⟨item, output⟩, hat, rfl⟩ := Option.map_eq_some_iff.1 hindex
    obtain ⟨⟨item', output'⟩, hat', rfl⟩ := Option.map_eq_some_iff.1 hindex'
    have hplace := (hs.slots_fit hfailure i _ (List.getElem?_eq_some_iff.2 ⟨hi, hat⟩)).1
    have hplace' := (hs.slots_fit hfailure j _ (List.getElem?_eq_some_iff.2 ⟨hj, hat'⟩)).1
    dsimp only
    omega
  · rw [waiting, hs.failed hfailure]
    exact List.nodup_nil

theorem outstanding_nodup (hs : s.Sound items staff Good) : s.outstanding.Nodup := by
  apply List.nodup_append.2
  refine ⟨hs.distinct, hs.waiting_nodup, ?_⟩
  intro index hrunning index' hwaiting
  obtain ⟨item, hitem, rfl⟩ := List.mem_map.1 hrunning
  exact (hs.of_waiting hwaiting).2.2 item hitem

/-- There are no more items under way than places from the head on. -/
theorem length_outstanding_le (hs : s.Sound items staff Good) :
    s.outstanding.length ≤ s.dispatched - s.head := by
  have hsub : s.outstanding ⊆ List.range' s.head (s.dispatched - s.head) := by
    intro index hindex
    obtain ⟨hle, hlt⟩ := hs.of_outstanding hindex
    rw [List.mem_range'_1]
    omega
  have hlength := (List.subperm_of_subset hs.outstanding_nodup hsub).length_le
  rwa [List.length_range'] at hlength

/-- The worker of an item that is completed becomes idle. -/
theorem accept_idle_completed (hs : s.Sound items staff Good) {item : WorkItem α}
    (hitem : item ∈ s.running) (endedAt : Nat) (worker : ω) (output : β) :
    (s.accept (.completed item.index endedAt worker output)).idle = s.idle ++ [worker] := by
  simp only [State.accept, hs.running?_eq hitem]
  split
  · rfl
  · rfl

/-- The items that a dispatch starts are the next ones. -/
theorem map_index_started (hs : s.Sound items staff Good) (now : Nat) :
    List.range s.dispatched ++ ((s.dispatch now).2.map Prod.fst).map WorkItem.index =
      List.range (s.dispatch now).1.dispatched := by
  obtain ⟨k, hk, hstarted, -, hpending⟩ := s.dispatch_takes now
  have hcount : (s.dispatch now).1.dispatched = s.dispatched + k := by
    have hbefore := hs.length_pending
    have hafter := (hs.dispatch now).length_pending
    rw [hpending, List.length_drop] at hafter
    omega
  rw [hstarted, hs.map_index_begun hk now, hcount, List.range_eq_range', List.range_eq_range']
  simpa using List.range'_append_1 (s := 0) (m := s.dispatched) (n := k)

end Sound

theorem accept_idle_lost (s : State α β ω σ ε) (index : Nat) :
    (s.accept (.lost index : Event β ω)).idle = s.idle := by
  simp only [accept]
  split
  · rfl
  · rfl

end State

namespace Session

variable {crew : Crew α β ω σ π} {handle : Handler α β σ ε} {items : List α} {workers : List ω}
  {limit : Nat} {world : σ} {s s' : Session α β ω σ ε π} {acts more : List (Act ε)}

/-! How far ahead -/

/-- Items are dispatched in their order, each once. -/
theorem History.dispatched_eq (h : History crew handle items workers limit world acts s) :
    acts.filterMap Act.dispatched? = List.range s.queue.dispatched := by
  induction h with
  | start progress hbegin =>
    obtain ⟨-, rfl⟩ := eq_initial_of_begin? hbegin
    dsimp only
    rw [State.dispatched_initial]
    rfl
  | step hs hdoes ih =>
    cases hdoes with
    | move hitem hmove =>
      rw [List.append_nil]
      exact ih
    | stir hstir =>
      rw [List.append_nil]
      exact ih
    | join endedAt hwait hitem hend =>
      rw [List.filterMap_append, ih]
      dsimp only
      rw [State.accept_dispatched]
      exact List.append_nil _
    | deliver hflush hnext =>
      rw [List.filterMap_append, ih]
      dsimp only
      rw [State.deliverNext_dispatched]
      exact List.append_nil _
    | resume now hflush hnext =>
      rw [List.filterMap_append, ih, dispatched_starts]
      exact hs.reach.sound.map_index_started now

/-! Who is at work -/

/-- Each running item has a worker that began it, and all workers are idle, hold a running
item or were lost with one. -/
structure Staffed (crew : Crew α β ω σ π) (ident : ω → κ) (workers : List ω) (owner : Nat → ω)
    (acts : List (Act ε)) (s : Session α β ω σ ε π) : Prop where
  owns : ∀ item ∈ s.queue.running, crew.Comes item (owner item.index) (s.progress item.index)
  lost : ∀ index ∈ acts.filterMap Act.lost?, index < s.queue.dispatched
  workers : (s.queue.idle.map ident ++ (s.queue.running.map WorkItem.index ++
    acts.filterMap Act.lost?).map fun index => ident (owner index)).Perm (workers.map ident)

def assign (owner : Nat → ω) (started : List (WorkItem α × ω)) (index : Nat) : ω :=
  ((started.find? fun task => task.1.index = index).map Prod.snd).getD (owner index)

theorem assign_of_forall_ne (owner : Nat → ω) {started : List (WorkItem α × ω)} {index : Nat}
    (h : ∀ task ∈ started, task.1.index ≠ index) : assign owner started index = owner index := by
  have hnone : (started.find? fun task => task.1.index = index) = none := by
    apply List.find?_eq_none.2
    intro task htask
    simpa using h task htask
  rw [assign, hnone]
  rfl

theorem assign_of_mem (owner : Nat → ω) {started : List (WorkItem α × ω)}
    (hdistinct : (started.map fun task => task.1.index).Nodup) {task : WorkItem α × ω}
    (h : task ∈ started) : assign owner started task.1.index = task.2 := by
  have hfound := find?_key_eq_some (fun task : WorkItem α × ω => task.1.index) hdistinct h
  rw [assign, hfound]
  rfl

theorem lost_starts (started : List (WorkItem α × ω)) :
    (starts started : List (Act ε)).filterMap Act.lost? = [] := by
  apply List.filterMap_eq_nil_iff.2
  intro act hact
  obtain ⟨task, -, rfl⟩ := List.mem_map.1 hact
  rfl

/-- Workers that were idle and hold an item now. -/
theorem perm_given (idle taken held lost : List κ) :
    (idle ++ (held ++ taken ++ lost)).Perm (taken ++ idle ++ (held ++ lost)) := by
  classical
  apply List.perm_iff_count.2
  intro worker
  simp only [List.count_append]
  omega

/-- A worker that held an item and is lost now. -/
theorem perm_lost (idle held lost : List κ) (worker : κ) :
    (idle ++ (held ++ (lost ++ [worker]))).Perm (idle ++ (worker :: held ++ lost)) := by
  apply List.Perm.append_left
  rw [← List.append_assoc]
  exact List.perm_append_singleton worker (held ++ lost)

namespace Staffed

variable {ident : ω → κ} {owner : Nat → ω}

/-- A dispatch gives items that are new to workers that were idle. -/
theorem dispatch {staff : Nat} {Good : WorkItem α → β → Prop} (hs : s.queue.Sound items staff Good)
    (h : Staffed crew ident workers owner acts s) (now : Nat) :
    Staffed crew ident workers (assign owner (s.queue.dispatch now).2)
      (acts ++ starts (s.queue.dispatch now).2) (s.dispatch crew now) := by
  obtain ⟨-, -, -, hidle, -⟩ := s.queue.dispatch_takes now
  have hnext := hs.map_index_started now
  have hrunning : (s.dispatch crew now).queue.running =
      s.queue.running ++ (s.queue.dispatch now).2.map Prod.fst := s.queue.dispatch_running now
  have hmore := (hs.dispatch_counts now).1
  have hnodup : (List.range (s.queue.dispatch now).1.dispatched).Nodup := List.nodup_range
  rw [← hnext, List.map_map] at hnodup
  obtain ⟨-, hdistinct, hapart⟩ := List.nodup_append.1 hnodup
  have hfresh (task : WorkItem α × ω) (htask : task ∈ (s.queue.dispatch now).2) (index : Nat)
      (hindex : index < s.queue.dispatched) : task.1.index ≠ index := by
    intro heq
    exact hapart index (List.mem_range.2 hindex) task.1.index (List.mem_map_of_mem htask) heq.symm
  have hkept (index : Nat) (hindex : index < s.queue.dispatched) :
      assign owner (s.queue.dispatch now).2 index = owner index :=
    assign_of_forall_ne owner fun task htask => hfresh task htask index hindex
  refine ⟨?_, ?_, ?_⟩
  · intro item hitem
    rw [hrunning] at hitem
    rcases List.mem_append.1 hitem with hold | hnew
    · rw [hkept item.index (hs.running item hold).2, dispatch_progress_of_running hs now hold]
      exact h.owns item hold
    · obtain ⟨⟨item, worker⟩, htask, rfl⟩ := List.mem_map.1 hnew
      rw [assign_of_mem owner hdistinct htask, dispatch_progress_of_started hs now htask]
      exact .begins
  · intro index hindex
    rw [List.filterMap_append, lost_starts, List.append_nil] at hindex
    exact Nat.lt_of_lt_of_le (h.lost index hindex) hmore
  · have hold (indices : List Nat) (h : ∀ index ∈ indices, index < s.queue.dispatched) :
        (indices.map fun index => ident (assign owner (s.queue.dispatch now).2 index)) =
          indices.map fun index => ident (owner index) := by
      apply List.map_congr_left
      intro index hindex
      rw [hkept index (h index hindex)]
    have hrun : ∀ index ∈ s.queue.running.map WorkItem.index, index < s.queue.dispatched := by
      intro index hindex
      obtain ⟨item, hitem, rfl⟩ := List.mem_map.1 hindex
      exact (hs.running item hitem).2
    have hnew : (((s.queue.dispatch now).2.map Prod.fst).map WorkItem.index).map (fun index =>
        ident (assign owner (s.queue.dispatch now).2 index)) =
          ((s.queue.dispatch now).2.map Prod.snd).map ident := by
      rw [List.map_map, List.map_map, List.map_map]
      apply List.map_congr_left
      intro task htask
      exact congrArg ident (assign_of_mem owner hdistinct htask)
    have hbefore := h.workers
    rw [hidle] at hbefore
    rw [hrunning, List.filterMap_append, lost_starts, List.append_nil]
    simp only [List.map_append] at hbefore ⊢
    rw [hold _ hrun, hold _ h.lost, hnew]
    exact (perm_given _ _ _ _).trans hbefore

/-- A worker comes back, or is lost with its item. -/
theorem join {staff : Nat} {Good : WorkItem α → β → Prop} (hs : s.queue.Sound items staff Good)
    (hback : crew.GivesBack ident) (h : Staffed crew ident workers owner acts s)
    {item : WorkItem α} (hitem : item ∈ s.queue.running) {outcome : Outcome β ω} (endedAt : Nat)
    (hend : crew.ends item (s.progress item.index) outcome) :
    Staffed crew ident workers owner (acts ++ [.joined item.index outcome.isLost])
      { s with
        queue := s.queue.accept (outcome.event item.index endedAt)
        flushing := true } := by
  have hrunning := hs.accept_running hitem outcome endedAt
  have hperm := ((hs.perm_running hitem).map fun index => ident (owner index)).append_right
    ((acts.filterMap Act.lost?).map fun index => ident (owner index))
  have hbefore := h.workers
  rw [List.map_append] at hbefore
  have hbefore' := (hperm.append_left (s.queue.idle.map ident)).symm.trans hbefore
  refine ⟨?_, ?_, ?_⟩
  · intro other hother
    exact h.owns other (State.mem_running_of_mem_accept hother)
  · intro index hindex
    rw [List.filterMap_append] at hindex
    dsimp only
    rw [State.accept_dispatched]
    rcases List.mem_append.1 hindex with hold | hnew
    · exact h.lost index hold
    · cases outcome with
      | completed worker output => cases hnew
      | lost =>
        obtain rfl : index = item.index := by simpa [Act.lost?, Outcome.isLost] using hnew
        exact (hs.running item hitem).2
  · dsimp only
    rw [hrunning, List.filterMap_append, List.map_append, List.map_append]
    refine List.Perm.trans ?_ hbefore'
    cases outcome with
    | completed worker output =>
      have hident : ident worker = ident (owner item.index) :=
        hback item (owner item.index) _ worker output (h.owns item hitem) hend
      have hidle := hs.accept_idle_completed hitem endedAt worker output
      rw [Outcome.event, hidle, List.map_append, List.map_singleton, hident, List.append_assoc]
      exact .of_eq (congrArg _ (congrArg _ (congrArg _ (List.append_nil _))))
    | lost =>
      rw [Outcome.event, State.accept_idle_lost]
      exact perm_lost _ _ _ _

/-- A task goes on with the worker that it has. -/
theorem move (h : Staffed crew ident workers owner acts s) {item : WorkItem α} {world : σ} {p : π}
    (hmove : crew.moves item s.queue.world (s.progress item.index) world p)
    (hdistinct : (s.queue.running.map WorkItem.index).Nodup) (hitem : item ∈ s.queue.running) :
    Staffed crew ident workers owner acts
      { s with
        queue := { s.queue with world }
        progress := Function.update s.progress item.index p } := by
  refine ⟨?_, h.lost, h.workers⟩
  intro other hother
  dsimp only at hother ⊢
  by_cases hsame : other.index = item.index
  · obtain rfl := List.inj_on_of_nodup_map hdistinct hother hitem hsame
    rw [Function.update_self]
    exact (h.owns other hother).moves hmove
  · rw [Function.update_of_ne hsame]
    exact h.owns other hother

end Staffed

/-- By induction on the run: a dispatch assigns workers, and no other step does. -/
theorem History.staffed {ident : ω → κ} (hback : crew.GivesBack ident)
    (h : History crew handle items workers limit world acts s) :
    ∃ owner, Staffed crew ident workers owner acts s := by
  induction h with
  | start progress hbegin =>
    obtain ⟨hworkers, rfl⟩ := eq_initial_of_begin? hbegin
    obtain ⟨worker, -⟩ := List.exists_mem_of_ne_nil workers hworkers
    refine ⟨fun _ => worker, ?_, ?_, ?_⟩
    · exact fun item hitem => nomatch hitem
    · exact fun index hindex => nomatch hindex
    · exact .of_eq (List.append_nil _)
  | @step acts more s s' hs hdoes ih =>
    obtain ⟨owner, hstaffed⟩ := ih
    have hsound := hs.reach.sound
    cases hdoes with
    | move hitem hmove =>
      refine ⟨owner, ?_⟩
      rw [List.append_nil]
      exact hstaffed.move hmove hsound.distinct hitem
    | stir hstir =>
      refine ⟨owner, ?_⟩
      rw [List.append_nil]
      exact ⟨hstaffed.owns, hstaffed.lost, hstaffed.workers⟩
    | join endedAt hwait hitem hend =>
      exact ⟨owner, hstaffed.join hsound hback hitem endedAt hend⟩
    | @deliver item output hflush hnext =>
      obtain ⟨slots, failure, buffered, world, heq⟩ :=
        State.deliverNext_frame handle s.queue item output
      have hlost : (acts ++ [Act.handled item.index
          (handle s.queue.world ⟨item, output, s.queue.buffered - 1⟩).2]).filterMap Act.lost? =
            acts.filterMap Act.lost? := by
        rw [List.filterMap_append]
        exact List.append_nil _
      refine ⟨owner, ?_⟩
      rw [heq]
      refine ⟨hstaffed.owns, ?_, ?_⟩
      · rw [hlost]
        exact hstaffed.lost
      · rw [hlost]
        exact hstaffed.workers
    | resume now hflush hnext => exact ⟨_, hstaffed.dispatch hsound now⟩

/-- A queue that waits has no idle worker for an item inside the window. -/
theorem Reach.idle_eq_nil (hs : Reach crew handle items workers limit world s)
    (hwait : s.flushing = false) (hfailure : s.queue.failure = none) {next : Nat × α}
    (hnext : next ∈ s.queue.pending.head?)
    (hinside : next.1 < s.queue.head + (workers.length + limit)) : s.queue.idle = [] := by
  rcases hs.exhausted hwait hfailure with hpending | hidle | ⟨p, hp, hadmits⟩
  · rw [hpending] at hnext
    cases hnext
  · exact hidle
  · obtain rfl : p = next := Option.mem_unique hp hnext
    rw [State.admits, hs.window, decide_eq_false_iff_not] at hadmits
    exact absurd hinside hadmits

end Session

/-- What holds of a queue at any time, in the middle of a flush too, with all that it has
done so far. Every running item has a worker of its own that began it: the workers are
those that are idle, those that hold a running item and those that were lost with one.
Items were dispatched in their order, each once, and only from the window ahead of the head
on; so those under way are inside it, and no more than it holds. While the queue waits and
nothing has failed, no worker is idle for an item inside the window. -/
theorem work_ahead_bounded (crew : Crew α β ω σ π) (handle : Handler α β σ ε) (items : List α)
    (workers : List ω) (limit : Nat) (world : σ) (ident : ω → κ) (hback : crew.GivesBack ident) :
    (∀ s : Session α β ω σ ε π, s.Reach crew handle items workers limit world →
      ∃ acts, s.History crew handle items workers limit world acts) ∧
    ∀ (s : Session α β ω σ ε π) (acts : List (Act ε)),
      Session.History crew handle items workers limit world acts s →
      (∃ owner : Nat → ω,
        (∀ item ∈ s.queue.running, crew.Comes item (owner item.index) (s.progress item.index)) ∧
        (s.queue.idle.map ident ++ (s.queue.running.map WorkItem.index ++
          acts.filterMap Act.lost?).map fun index => ident (owner index)).Perm
            (workers.map ident)) ∧
      s.queue.idle.length + s.queue.running.length + (acts.filterMap Act.lost?).length =
        workers.length ∧
      acts.filterMap Act.dispatched? = List.range s.queue.dispatched ∧
      s.queue.dispatched ≤ s.queue.head + (workers.length + limit) ∧
      s.queue.outstanding.Nodup ∧
      (∀ index ∈ s.queue.outstanding,
        s.queue.head ≤ index ∧ index < s.queue.head + (workers.length + limit)) ∧
      s.queue.outstanding.length ≤ workers.length + limit ∧
      (s.queue.failure = none → ∀ index, index ∈ s.queue.outstanding ↔
        s.queue.head ≤ index ∧ index < s.queue.dispatched) ∧
      (s.flushing = false → s.queue.failure = none →
        ∀ next ∈ s.queue.pending.head?,
          next.1 < s.queue.head + (workers.length + limit) → s.queue.idle = []) := by
  refine ⟨fun s hs => hs.exists_history, fun s acts hhistory => ?_⟩
  have hs := hhistory.reach
  obtain ⟨owner, hstaffed⟩ := hhistory.staffed hback
  have hcount := hstaffed.workers.length_eq
  simp only [List.length_append, List.length_map] at hcount
  have hahead := hs.dispatched_le
  have hlength := hs.sound.length_outstanding_le
  refine ⟨⟨owner, hstaffed.owns, hstaffed.workers⟩, by omega, hhistory.dispatched_eq, by omega,
    hs.sound.outstanding_nodup, ?_, by omega,
    fun hfailure index => hs.sound.mem_outstanding_iff hfailure, ?_⟩
  · intro index hindex
    obtain ⟨hle, hlt⟩ := hs.sound.of_outstanding hindex
    omega
  · intro hwait hfailure next hnext hinside
    exact hs.idle_eq_nil hwait hfailure hnext hinside

/-- Workers with numbers, of which any may be lost; a task knows the number of its worker. -/
def numbered : Crew Nat Nat Nat Unit Nat where
  begins _ worker := worker
  moves _ _ _ _ _ := False
  ends item worker outcome := outcome = .completed worker (2 * item.payload) ∨ outcome = .lost
  stirs _ _ := False

theorem numbered_givesBack : numbered.GivesBack id := by
  intro item worker p worker' output hcomes hend
  have hp : p = worker := by
    cases hcomes with
    | begins => rfl
    | moves hcomes hmove => exact hmove.elim
  rcases hend with hcompleted | hlost
  · obtain ⟨rfl, -⟩ := Outcome.completed.inj hcompleted
    exact hp
  · cases hlost

/-- Two workers and room for one item more: the second item is done and waits for the first
one, and its worker holds the third item. The fourth is outside the window. -/
theorem work_ahead_of_slow_head :
    let handle : Handler Nat Nat Unit String := fun world _ => (world, none)
    let acts : List (Act String) := [.dispatched 0, .dispatched 1, .joined 1 false, .dispatched 2]
    ∃ s : Session Nat Nat Nat Unit String Nat,
      s.History numbered handle [3, 5, 7, 9] [10, 11] 1 () acts ∧ s.flushing = false ∧
      s.queue.running.map WorkItem.index = [0, 2] ∧ s.queue.waiting = [1] ∧
      (∃ owner : Nat → Nat, [owner 0, owner 2].Perm [10, 11]) ∧
      s.queue.outstanding.length ≤ 2 + 1 := by
  intro handle acts
  have hdispatched : Session.History numbered handle [3, 5, 7, 9] [10, 11] 1 () _ _ :=
    .step (.start (fun _ => 0) rfl) (.resume 0 rfl rfl rfl)
  have hsecond := hdispatched.step
    (.join 4 rfl (List.mem_cons_of_mem _ List.mem_cons_self) (.inl rfl))
  have hwaiting := hsecond.step (.resume 4 rfl rfl rfl)
  have hacts : Session.History numbered handle [3, 5, 7, 9] [10, 11] 1 () acts _ := hwaiting
  have hfollows := (work_ahead_bounded numbered handle [3, 5, 7, 9] [10, 11] 1 () id
    numbered_givesBack).2 _ acts hacts
  obtain ⟨⟨owner, -, hperm⟩, -, -, -, -, -, hfew, -⟩ := hfollows
  exact ⟨_, hacts, rfl, rfl, rfl, ⟨owner, hperm⟩, hfew⟩

end Provenance.Queue
