import Mathlib.Data.List.Perm.Subperm
import Provenance.Proofs.Queue.Clocked
import Provenance.Proofs.Queue.Order

/-!
The window in sixty-four bits. Its bound is the sum of head and window, and the program
breaks off where the bound is compared with an item and is more than a word. How many items
it takes for that depends on the order in which the tasks end, but there is a number of
items that are handled in every order.
-/

namespace Provenance.Queue

/-- The number of items up to which no run breaks off. The first part is the head from
which on the window ends beyond all words. -/
def assured (staff limit : Nat) : Nat :=
  if 2 ^ 64 ≤ staff + limit then 0
  else 2 ^ 64 - (staff + limit) +
    min (staff + limit - (2 ^ 64 - (staff + limit))) (staff - 1)

/-- Where the counts fit into a word together, no run breaks off. -/
theorem le_assured {count staff limit : Nat} (h : count + staff + limit ≤ 2 ^ 64)
    (hstaff : 0 < staff) : count ≤ assured staff limit := by
  unfold assured
  split
  · omega
  · omega

namespace State

variable {α β ω σ ε : Type} {s : State α β ω σ ε} {items : List α} {staff : Nat}
  {Good : WorkItem α → β → Prop}

@[simp]
theorem accept_dispatched (s : State α β ω σ ε) (event : Event β ω) :
    (s.accept event).dispatched = s.dispatched := by
  obtain ⟨idle, running, slots, failure, buffered, -, heq⟩ := accept_frame s event
  rw [heq]
  rfl

@[simp]
theorem deliverNext_dispatched (handle : Handler α β σ ε) (s : State α β ω σ ε)
    (item : WorkItem α) (output : β) :
    (s.deliverNext handle item output).dispatched = s.dispatched := by
  obtain ⟨slots, failure, buffered, world, heq⟩ := deliverNext_frame handle s item output
  rw [heq]
  rfl

namespace Sound

theorem dispatched_le (hs : s.Sound items staff Good) : s.dispatched ≤ items.length := by
  have hlength := hs.length_pending
  omega

/-- Every task that was dispatched for an undelivered item has an index of its own. -/
theorem head_add_running_le (hs : s.Sound items staff Good) (hfailure : s.failure = none) :
    s.head + s.running.length ≤ s.dispatched := by
  have hslots := hs.slots_length hfailure
  have hsub : s.running.map WorkItem.index ⊆ List.range' s.head (s.dispatched - s.head) := by
    intro index hindex
    obtain ⟨item, hitem, rfl⟩ := List.mem_map.1 hindex
    have hahead := hs.ahead item hitem
    have hlt := (hs.running item hitem).2
    rw [List.mem_range'_1]
    omega
  have hlength := (List.subperm_of_subset hs.distinct hsub).length_le
  rw [List.length_map, List.length_range'] at hlength
  omega

/-- What a dispatch adds runs, and the window has room for it. -/
theorem dispatch_counts (hs : s.Sound items staff Good) (now : Nat) :
    s.dispatched ≤ (s.dispatch now).1.dispatched ∧
      (s.dispatch now).1.running.length + s.dispatched =
        s.running.length + (s.dispatch now).1.dispatched ∧
      ((s.dispatch now).1.dispatched ≤ s.dispatched ∨
        (s.dispatch now).1.dispatched ≤ s.head + s.window) := by
  by_cases hfailure : s.failure = none
  · obtain ⟨k, hpending, -, heq, hadmitted, -⟩ := dispatchFrom_spec now s s.pending s.idle
    have hcount : (s.dispatch now).1.dispatched = s.dispatched + k := by
      have hafter := (hs.dispatch now).length_pending
      have hbefore := hs.length_pending
      rw [dispatch_of_no_failure hfailure, heq] at hafter ⊢
      rw [List.length_drop] at hafter
      omega
    have hrunning : (s.dispatch now).1.running.length = s.running.length + k := by
      rw [dispatch_of_no_failure hfailure, heq, List.length_append, List.length_map,
        List.length_take, Nat.min_eq_left hpending]
    refine ⟨by omega, by omega, ?_⟩
    cases k with
    | zero => exact .inl (Nat.le_of_eq hcount)
    | succ k =>
      have hlast : s.dispatched + k ∈
          ((s.pending.take (k + 1)).map (begun s.total now)).map WorkItem.index := by
        rw [hs.map_index_begun hpending now, List.mem_range'_1]
        omega
      obtain ⟨item, hitem, hindex⟩ := List.mem_map.1 hlast
      obtain ⟨p, hp, rfl⟩ := List.mem_map.1 hitem
      have hadmits := hadmitted p hp
      rw [admits, decide_eq_true_eq, show p.1 = s.dispatched + k from hindex] at hadmits
      exact .inr (by omega)
  · rw [dispatch_of_failure hfailure]
    exact ⟨Nat.le_refl _, rfl, .inl (Nat.le_refl _)⟩

/-- Where nothing can be delivered the item at the head runs, if it was dispatched. -/
theorem running_head (hs : s.Sound items staff Good) (hfailure : s.failure = none)
    (hnext : s.next? = none) :
    s.head = s.dispatched ∨ ∃ item ∈ s.running, item.index = s.head := by
  have hlength := hs.slots_length hfailure
  cases hslots : s.slots with
  | nil =>
    rw [hslots, List.length_nil] at hlength
    exact .inl hlength
  | cons slot slots =>
    have hfit := hs.slots_fit hfailure 0 slot (by rw [hslots, List.getElem?_cons_zero])
    cases slot with
    | none => exact .inr hfit
    | some result =>
      rw [State.next?_eq_some_iff.2 ⟨hfailure, slots, hslots⟩] at hnext
      cases hnext

/-- Dispatching stops for want of items, of workers or of room. -/
theorem full_of_exhausted (hs : s.Sound items staff Good) (hfailure : s.failure = none)
    (h : s.Exhausted) : s.dispatched = items.length ∨
      s.running.length = staff ∨ s.head + s.window ≤ s.dispatched := by
  have hlength := hs.length_pending
  have hstaffed := hs.staffed hfailure
  rcases h with hpending | hidle | ⟨p, hp, hadmits⟩
  · rw [hpending, List.length_nil] at hlength
    exact .inl hlength
  · rw [hidle, List.length_nil, Nat.zero_add] at hstaffed
    exact .inr (.inl hstaffed)
  · rw [admits, hs.index_pending hp, decide_eq_false_iff_not, Nat.not_lt] at hadmits
    exact .inr (.inr hadmits)

end Sound

end State

namespace Session

variable {α β ω σ ε π : Type} {crew : Crew α β ω σ π} {handle : Handler α β σ ε}
  {items : List α} {workers : List ω} {limit : Nat} {world : σ} {s : Session α β ω σ ε π}

theorem Reach.window (hs : Reach crew handle items workers limit world s) :
    s.queue.window = workers.length + limit :=
  (hs.invariant (keeps_nothing crew handle items) trivial).window

/-- Dispatching stays within the window. -/
theorem Reach.dispatched_le (hs : Reach crew handle items workers limit world s) :
    s.queue.dispatched ≤ s.queue.head + (workers.length + limit) := by
  induction hs with
  | start progress hbegin =>
    obtain ⟨-, rfl⟩ := eq_initial_of_begin? hbegin
    dsimp only
    rw [State.dispatched_initial]
    exact Nat.zero_le _
  | @step s s' hreach hstep ih =>
    cases hstep with
    | move => exact ih
    | stir => exact ih
    | join =>
      dsimp only
      rwa [State.accept_dispatched, State.accept_head]
    | deliver =>
      dsimp only
      rw [State.deliverNext_dispatched, State.deliverNext_head]
      omega
    | resume now =>
      obtain ⟨-, -, hroom⟩ := hreach.sound.dispatch_counts now
      change (s.queue.dispatch now).1.dispatched ≤ (s.queue.dispatch now).1.head + _
      rw [State.dispatch_head]
      rw [hreach.window] at hroom
      omega

/-- Nothing fails where no worker is lost and the handler refuses nothing. -/
theorem Reach.failure_eq_none (hlost : ∀ item p, ¬ crew.ends item p .lost)
    (hhandle : ∀ world delivery, (handle world delivery).2 = none)
    (hs : Reach crew handle items workers limit world s) : s.queue.failure = none := by
  have hkept := (hs.invariant (keeps_order crew handle items hlost) fun f h => nomatch h).kept
  cases hfailure : s.queue.failure with
  | none => rfl
  | some failure =>
    obtain ⟨world, delivery, hrefused⟩ := hkept failure hfailure
    exact absurd (hhandle world delivery) hrefused

structure Windowed (items : List α) (staff limit : Nat) (s : Session α β ω σ ε π) : Prop where
  /-- Between a dispatch and a delivery one task has ended. -/
  full : ∀ result, s.queue.next? = some result →
    s.queue.dispatched = items.length ∨ staff ≤ s.queue.running.length + 1 ∨
      staff + limit ≤ s.queue.dispatched
  passed : 2 ^ 64 ≤ s.queue.head + (staff + limit) →
    min items.length (assured staff limit) ≤ s.queue.dispatched

namespace Windowed

variable {staff : Nat}

theorem dispatch {Good : WorkItem α → β → Prop} (hs : s.queue.Sound items staff Good)
    (h : s.Windowed items staff limit) (hnext : s.queue.next? = none) (now : Nat) :
    (s.dispatch crew now).Windowed items staff limit := by
  obtain ⟨hmore, -, -⟩ := hs.dispatch_counts now
  have hnext' : (s.dispatch crew now).queue.next? = none := State.next?_dispatch hnext now
  have hhead : (s.dispatch crew now).queue.head = s.queue.head := s.queue.dispatch_head now
  refine ⟨fun result hresult => ?_, fun hpassed => ?_⟩
  · cases hnext'.symm.trans hresult
  · rw [hhead] at hpassed
    exact Nat.le_trans (h.passed hpassed) hmore

/-- One task ends: all that was dispatched but this one still runs. -/
theorem join {Good : WorkItem α → β → Prop} (hs : s.queue.Sound items staff Good)
    (hfailure : s.queue.failure = none) (hwindow : s.queue.window = staff + limit)
    (hexhausted : s.queue.Exhausted) (h : s.Windowed items staff limit) {item : WorkItem α}
    (hitem : item ∈ s.queue.running) (outcome : Outcome β ω) (endedAt : Nat) :
    Windowed items staff limit
      { s with
        queue := s.queue.accept (outcome.event item.index endedAt)
        flushing := true } := by
  have hlength := hs.length_filter_running hitem
  have hrunning := hs.accept_running hitem outcome endedAt
  refine ⟨fun _ _ => ?_, ?_⟩
  · have hfull := hs.full_of_exhausted hfailure hexhausted
    rw [hwindow] at hfull
    simp only [State.accept_dispatched, hrunning]
    omega
  · simpa only [State.accept_dispatched, State.accept_head] using h.passed

/-- The delivery that moves the head to where the window ends beyond all words. What runs
then was dispatched behind the new head. -/
theorem deliver {Good : WorkItem α → β → Prop} (hs : s.queue.Sound items staff Good)
    (h : s.Windowed items staff limit) {item : WorkItem α} {output : β}
    (hnext : s.queue.next? = some (item, output))
    (hfailure : (s.queue.deliverNext handle item output).failure = none) :
    Windowed items staff limit
      { s with
        queue := s.queue.deliverNext handle item output
        log := s.log ++ [⟨item, output, s.queue.buffered - 1⟩] } := by
  have hcount := (hs.deliverNext hnext).head_add_running_le hfailure
  have hfull := h.full _ hnext
  rw [State.deliverNext_head, State.deliverNext_running, State.deliverNext_dispatched] at hcount
  refine ⟨fun _ _ => ?_, fun hpassed => ?_⟩
  · simpa only [State.deliverNext_dispatched, State.deliverNext_running] using hfull
  · simp only [State.deliverNext_head] at hpassed
    simp only [State.deliverNext_dispatched]
    by_cases hbefore : 2 ^ 64 ≤ s.queue.head + (staff + limit)
    · exact h.passed hbefore
    · unfold assured
      split
      · omega
      · omega

end Windowed

theorem Reach.windowed (hlost : ∀ item p, ¬ crew.ends item p .lost)
    (hhandle : ∀ world delivery, (handle world delivery).2 = none)
    (hs : Reach crew handle items workers limit world s) :
    s.Windowed items workers.length limit := by
  induction hs with
  | start progress hbegin =>
    obtain ⟨-, rfl⟩ := eq_initial_of_begin? hbegin
    refine ⟨(fun _ hresult => nomatch hresult), fun hpassed => ?_⟩
    change 2 ^ 64 ≤ 0 + (workers.length + limit) at hpassed
    rw [assured, if_pos (by omega), Nat.min_zero]
    exact Nat.zero_le _
  | step hreach hstep ih =>
    have hsound := hreach.sound
    have hfailure := (hreach.step hstep).failure_eq_none hlost hhandle
    cases hstep with
    | move hitem hmove => exact ⟨ih.full, ih.passed⟩
    | stir hstir => exact ⟨ih.full, ih.passed⟩
    | join endedAt hwait hitem hend =>
      have hnone := hreach.failure_eq_none hlost hhandle
      exact ih.join hsound hnone hreach.window (hreach.exhausted hwait hnone) hitem _ endedAt
    | deliver hflush hnext => exact ih.deliver hsound hnext hfailure
    | resume now hflush hnext => exact ih.dispatch hsound hnext now

/-- A run over no more items than are assured does not break off. -/
theorem Reach.not_overflowed (hlost : ∀ item p, ¬ crew.ends item p .lost)
    (hhandle : ∀ world delivery, (handle world delivery).2 = none)
    (hs : Reach crew handle items workers limit world s)
    (hfew : items.length ≤ assured workers.length limit) : ¬ s.Overflowed := by
  intro hoverflowed
  obtain ⟨-, hpending, hsum⟩ := State.overflows_eq_true_iff.1 hoverflowed.2.2
  rw [hs.window] at hsum
  have hall := (hs.windowed hlost hhandle).passed hsum
  have hlength := hs.sound.length_pending
  have hleft := List.length_pos_iff.2 hpending
  omega

end Session

end Provenance.Queue
