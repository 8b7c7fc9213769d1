import Provenance.Proofs.Queue.Window
import Provenance.Queue.Timetable

/-!
Runs in rounds. Where tasks can end at any time, a session that waits may go on with the
end of whichever task one likes. Rounds that keep the oldest item running, or end always
the oldest, bring the head to where the window ends beyond all words as soon as can be.
-/

namespace Provenance.Queue

namespace Session

variable {α β ω σ ε π : Type} {crew : Crew α β ω σ π} {handle : Handler α β σ ε}
  {items : List α} {workers : List ω} {limit : Nat} {world : σ} {s t : Session α β ω σ ε π}

/-- From a wait to the next dispatch: the task of an item ends, and what can be handed on
is handed on. -/
structure Flush (item : WorkItem α) (s t : Session α β ω σ ε π) : Prop where
  flushes : t.flushing = true
  next : t.queue.next? = none
  running : t.queue.running = s.queue.running.filter fun other => other.index ≠ item.index
  dispatched : t.queue.dispatched = s.queue.dispatched
  head : t.queue.head = s.queue.dispatched ∨
    ∃ other ∈ s.queue.running, other.index ≠ item.index ∧ other.index = t.queue.head

def Orderly (s : Session α β ω σ ε π) : Prop :=
  s.queue.head + s.queue.running.length = s.queue.dispatched

theorem Orderly.dispatch {staff : Nat} {Good : WorkItem α → β → Prop}
    (hs : s.queue.Sound items staff Good) (h : s.Orderly) (now : Nat) :
    (s.dispatch crew now).Orderly := by
  obtain ⟨-, hadded, -⟩ := hs.dispatch_counts now
  unfold Orderly at h ⊢
  change (s.queue.dispatch now).1.head + (s.queue.dispatch now).1.running.length =
    (s.queue.dispatch now).1.dispatched
  rw [State.dispatch_head]
  omega

/-- The session dispatches, while the window ends within the words. -/
theorem Reach.dispatch (hs : Reach crew handle items workers limit world s)
    (hflush : s.flushing = true) (hnext : s.queue.next? = none)
    (hfits : s.queue.head + (workers.length + limit) < 2 ^ 64) :
    Reach crew handle items workers limit world (s.dispatch crew 0) := by
  refine hs.step (.resume 0 hflush hnext ?_)
  rw [Bool.eq_false_iff, ne_eq, State.overflows_eq_true_iff, hs.window]
  omega

section Waiting

variable (hlost : ∀ item p, ¬ crew.ends item p .lost)
  (hhandle : ∀ world delivery, (handle world delivery).2 = none)

include hlost hhandle

/-- While a session waits, the oldest item runs unless nothing does. -/
theorem exists_oldest (hs : Reach crew handle items workers limit world s)
    (hwait : s.flushing = false) (hrunning : s.queue.running ≠ []) :
    ∃ item ∈ s.queue.running, item.index = s.queue.head := by
  have hfailure := hs.failure_eq_none hlost hhandle
  have hnext := ((hs.invariant (keeps_nothing crew handle items) trivial).waits hwait hfailure).1
  refine (hs.sound.running_head hfailure hnext).resolve_left fun hall => ?_
  have hle := hs.sound.head_add_running_le hfailure
  have hpos := List.length_pos_iff.2 hrunning
  omega

/-- How far dispatching has come where the tasks ended in order. -/
theorem Orderly.dispatched_eq (hs : Reach crew handle items workers limit world s)
    (hwait : s.flushing = false) (h : s.Orderly) :
    s.queue.dispatched = min items.length (s.queue.head + workers.length) := by
  have hfailure := hs.failure_eq_none hlost hhandle
  have hfull := hs.sound.full_of_exhausted hfailure (hs.exhausted hwait hfailure)
  have hle := hs.dispatched_le
  have hall := hs.sound.dispatched_le
  have hstaffed := hs.sound.staffed hfailure
  rw [hs.window] at hfull
  unfold Orderly at h
  omega

/-- With items left, a session whose window ends beyond all words breaks off. -/
theorem Reach.overflowed (hs : Reach crew handle items workers limit world s)
    (hflush : s.flushing = true) (hnext : s.queue.next? = none)
    (hleft : s.queue.dispatched < items.length)
    (hsum : 2 ^ 64 ≤ s.queue.head + (workers.length + limit)) : s.Overflowed := by
  have hfailure := hs.failure_eq_none hlost hhandle
  have hlength := hs.sound.length_pending
  refine ⟨hflush, hnext, State.overflows_eq_true_iff.2 ⟨hfailure, ?_, hs.window ▸ hsum⟩⟩
  exact List.length_pos_iff.1 (by omega)

theorem Flush.head_le (hs : Reach crew handle items workers limit world s) {item : WorkItem α}
    (h : Flush item s t) : s.queue.head ≤ t.queue.head := by
  rcases h.head with hall | ⟨other, hother, -, hindex⟩
  · have hle := hs.sound.head_add_running_le (hs.failure_eq_none hlost hhandle)
    omega
  · exact hindex ▸ hs.sound.ahead other hother

/-- Where the oldest item is the first whose task ends, the head moves on by one. -/
theorem Flush.orderly (hs : Reach crew handle items workers limit world s)
    (ht : Reach crew handle items workers limit world t) {item : WorkItem α}
    (h : Flush item s t) (horderly : s.Orderly) (hitem : item ∈ s.queue.running)
    (holdest : item.index = s.queue.head) :
    t.Orderly ∧ t.queue.head = s.queue.head + 1 := by
  have hlength := hs.sound.length_filter_running hitem
  have hle := ht.sound.head_add_running_le (ht.failure_eq_none hlost hhandle)
  have hhead : s.queue.head + 1 ≤ t.queue.head := by
    rcases h.head with hall | ⟨other, hother, hne, hindex⟩
    · have hlt := (hs.sound.running item hitem).2
      omega
    · have hahead := hs.sound.ahead other hother
      omega
  unfold Orderly at horderly ⊢
  rw [h.running, h.dispatched] at hle ⊢
  omega

end Waiting

/-- A run over some items begins. -/
theorem exists_begun (crew : Crew α β ω σ π) (handle : Handler α β σ ε) (limit : Nat) (world : σ)
    (hitems : items ≠ []) (hworkers : workers ≠ []) :
    ∃ s : Session α β ω σ ε π, Reach crew handle items workers limit world s ∧
      s.flushing = true ∧ s.queue.next? = none ∧ s.Orderly ∧ s.queue.head = 0 ∧
      s.queue.dispatched = 0 := by
  obtain ⟨payload, -⟩ := List.exists_mem_of_ne_nil items hitems
  obtain ⟨worker, -⟩ := List.exists_mem_of_ne_nil workers hworkers
  have hbegin : (begin? items workers limit world : Except _ (State α β ω σ ε)) =
      .ok (.initial items workers limit world) := by
    rw [begin?, if_neg (by simpa using hitems), if_neg (by simpa using hworkers)]
  have hnone := State.dispatched_initial (β := β) (ε := ε) items workers limit world
  refine ⟨_, .start (fun _ => crew.begins ⟨0, 0, payload, 0, none⟩ worker) hbegin, rfl, rfl, ?_,
    rfl, hnone⟩
  rw [Orderly, hnone]
  rfl

section Rounds

variable (hlost : ∀ item p, ¬ crew.ends item p .lost)
  (hhandle : ∀ world delivery, (handle world delivery).2 = none)
  (hends : ∀ item p, ∃ worker output, crew.ends item p (.completed worker output))

include hlost hhandle hends

/-- Any running item may be the next whose task ends. -/
theorem exists_flush (hs : Reach crew handle items workers limit world s)
    (hwait : s.flushing = false) {item : WorkItem α} (hitem : item ∈ s.queue.running) :
    ∃ t, Reach crew handle items workers limit world t ∧ Flush item s t := by
  obtain ⟨worker, output, hend⟩ := hends item (s.progress item.index)
  have hjoined := hs.step (.join 0 hwait hitem hend)
  obtain ⟨t, hsteps, -, hnext, hflush, -, hrunning, hpending⟩ := deliver_steps hjoined rfl
  have ht := hjoined.steps hsteps
  rw [hs.sound.accept_running hitem] at hrunning
  rw [State.accept_pending] at hpending
  have hcount : t.queue.dispatched = s.queue.dispatched := by
    rw [State.dispatched, State.dispatched, hpending, ht.sound.total, hs.sound.total]
  refine ⟨t, ht, hflush, hnext, hrunning, hcount, ?_⟩
  rcases ht.sound.running_head (ht.failure_eq_none hlost hhandle) hnext with
    hall | ⟨other, hother, hindex⟩
  · exact .inl (hall.trans hcount)
  · rw [hrunning] at hother
    obtain ⟨hmem, hne⟩ := List.mem_filter.1 hother
    exact .inr ⟨other, hmem, by simpa using hne, hindex⟩

/-- The task of the oldest item may be the next that ends. -/
theorem Orderly.exists_flush (hs : Reach crew handle items workers limit world s)
    (hwait : s.flushing = false) (h : s.Orderly) (hlt : s.queue.head < s.queue.dispatched) :
    ∃ item t, Reach crew handle items workers limit world t ∧ Flush item s t ∧ t.Orderly ∧
      t.queue.head = s.queue.head + 1 := by
  have hrunning : s.queue.running ≠ [] := by
    intro hnil
    rw [Orderly, hnil, List.length_nil] at h
    omega
  obtain ⟨item, hitem, holdest⟩ := exists_oldest hlost hhandle hs hwait hrunning
  obtain ⟨t, ht, hflush⟩ := Session.exists_flush hlost hhandle hends hs hwait hitem
  exact ⟨item, t, ht, hflush, hflush.orderly hlost hhandle hs ht h hitem holdest⟩

/-- If tasks end in order, the head comes to every place from which on the window ends
within the words. -/
theorem exists_orderly (limit : Nat) (world : σ) (hitems : items ≠ []) (hworkers : workers ≠ [])
    (head : Nat) (hhead : head ≤ items.length)
    (hfits : head + (workers.length + limit) < 2 ^ 64) :
    ∃ s : Session α β ω σ ε π, Reach crew handle items workers limit world s ∧
      s.flushing = false ∧ s.Orderly ∧ s.queue.head = head := by
  have hresumed {t : Session α β ω σ ε π} (ht : Reach crew handle items workers limit world t)
      (hflush : t.flushing = true) (hnext : t.queue.next? = none) (h : t.Orderly)
      (hfits : t.queue.head + (workers.length + limit) < 2 ^ 64) :
      ∃ s : Session α β ω σ ε π, Reach crew handle items workers limit world s ∧
        s.flushing = false ∧ s.Orderly ∧ s.queue.head = t.queue.head :=
    ⟨_, ht.dispatch hflush hnext hfits, rfl, h.dispatch ht.sound 0, State.dispatch_head _ 0⟩
  induction head with
  | zero =>
    obtain ⟨t, ht, hflush, hnext, horderly, hzero, -⟩ :=
      exists_begun crew handle limit world hitems hworkers
    rw [← hzero] at hfits ⊢
    exact hresumed ht hflush hnext horderly hfits
  | succ head ih =>
    obtain ⟨s, hs, hwait, horderly, rfl⟩ := ih (by omega) (by omega)
    have hdispatched := horderly.dispatched_eq hlost hhandle hs hwait
    have hstaff := List.length_pos_iff.2 hworkers
    obtain ⟨item, t, ht, hflush, horderly', hmoved⟩ :=
      horderly.exists_flush hlost hhandle hends hs hwait (by omega)
    rw [← hmoved] at hfits ⊢
    exact hresumed ht hflush.flushes hflush.next horderly' hfits

/-- The oldest item may run on until it is the only one. -/
theorem exists_held (hs : Reach crew handle items workers limit world s)
    (hwait : s.flushing = false) (hrunning : s.queue.running ≠ [])
    (hfits : s.queue.head + (workers.length + limit) < 2 ^ 64) :
    ∃ s', Reach crew handle items workers limit world s' ∧ s'.flushing = false ∧
      s'.queue.head = s.queue.head ∧ s'.queue.running.length = 1 := by
  -- Each round ends a task, and only so many items are left to dispatch.
  generalize hmeasure : 2 * (items.length - s.queue.dispatched) + s.queue.running.length = measure
  induction measure using Nat.strongRecOn generalizing s with
  | ind measure ih =>
    have hpos := List.length_pos_iff.2 hrunning
    by_cases hone : s.queue.running.length = 1
    · exact ⟨s, hs, hwait, rfl, hone⟩
    · obtain ⟨oldest, holdest, hindex⟩ := exists_oldest hlost hhandle hs hwait hrunning
      have hothers := hs.sound.length_filter_running holdest
      obtain ⟨item, hitem⟩ := List.exists_mem_of_ne_nil
        (s.queue.running.filter fun other => other.index ≠ oldest.index)
        (List.length_pos_iff.1 (by omega))
      obtain ⟨hmem, hapart⟩ := List.mem_filter.1 hitem
      obtain ⟨t, ht, hflush⟩ := exists_flush hlost hhandle hends hs hwait hmem
      have hheld : oldest ∈ t.queue.running := by
        rw [hflush.running]
        refine List.mem_filter.2 ⟨holdest, ?_⟩
        simpa using fun heq => of_decide_eq_true hapart heq.symm
      have hhead : t.queue.head = s.queue.head := by
        have hle := hflush.head_le hlost hhandle hs
        have hahead := ht.sound.ahead oldest hheld
        omega
      have hs' := ht.dispatch hflush.flushes hflush.next (hhead ▸ hfits)
      have hhead' : (t.dispatch crew 0).queue.head = s.queue.head :=
        (t.queue.dispatch_head 0).trans hhead
      have hrunning' : (t.dispatch crew 0).queue.running ≠ [] := by
        change (t.queue.dispatch 0).1.running ≠ []
        rw [State.dispatch_running]
        exact List.ne_nil_of_mem (List.mem_append_left _ hheld)
      have hless : 2 * (items.length - (t.queue.dispatch 0).1.dispatched) +
          (t.queue.dispatch 0).1.running.length < measure := by
        obtain ⟨hmore, hadded, -⟩ := ht.sound.dispatch_counts 0
        have hall := hs'.sound.dispatched_le
        have hended := hs.sound.length_filter_running hmem
        rw [hflush.running, hflush.dispatched] at hadded
        rw [hflush.dispatched] at hmore
        change (t.queue.dispatch 0).1.dispatched ≤ _ at hall
        omega
      obtain ⟨s', hs', hwait', hhead'', hone'⟩ :=
        ih _ hless hs' rfl hrunning' (hhead' ▸ hfits) rfl
      exact ⟨s', hs', hwait', hhead''.trans hhead', hone'⟩

/-- Where there are few workers, the shortest way goes in order. -/
theorem exists_overflowed_of_staff (world : σ) (hitems : items ≠ []) (hworkers : workers ≠ [])
    (hwindow : workers.length + limit < 2 ^ 64)
    (hmany : assured workers.length limit < items.length)
    (hstaff : workers.length - 1 ≤
      workers.length + limit - (2 ^ 64 - (workers.length + limit))) :
    ∃ s : Session α β ω σ ε π, Reach crew handle items workers limit world s ∧ s.Overflowed := by
  rw [assured, if_neg (by omega)] at hmany
  have hpos := List.length_pos_iff.2 hworkers
  obtain ⟨s, hs, hwait, horderly, hhead⟩ :=
    exists_orderly hlost hhandle hends limit world hitems hworkers
      (2 ^ 64 - (workers.length + limit) - 1) (by omega) (by omega)
  have hdispatched := horderly.dispatched_eq hlost hhandle hs hwait
  obtain ⟨item, t, ht, hflush, -, hmoved⟩ :=
    horderly.exists_flush hlost hhandle hends hs hwait (by omega)
  have hleft : t.queue.dispatched < items.length := by
    rw [hflush.dispatched]
    omega
  exact ⟨t, ht, ht.overflowed hlost hhandle hflush.flushes hflush.next hleft (by omega)⟩

/-- Where there are many workers, the shortest way holds one item until all others of the
window have ended. -/
theorem exists_overflowed_of_window (world : σ) (hitems : items ≠ []) (hworkers : workers ≠ [])
    (hwindow : workers.length + limit < 2 ^ 64)
    (hmany : assured workers.length limit < items.length)
    (hstaff : workers.length + limit - (2 ^ 64 - (workers.length + limit)) <
      workers.length - 1) :
    ∃ s : Session α β ω σ ε π, Reach crew handle items workers limit world s ∧ s.Overflowed := by
  rw [assured, if_neg (by omega)] at hmany
  obtain ⟨s, hs, hwait, horderly, hhead⟩ :=
    exists_orderly hlost hhandle hends limit world hitems hworkers
      (2 ^ 64 - (workers.length + limit) - (workers.length + limit)) (by omega) (by omega)
  have hdispatched := horderly.dispatched_eq hlost hhandle hs hwait
  have hrunning : s.queue.running ≠ [] := by
    unfold Orderly at horderly
    exact List.length_pos_iff.1 (by omega)
  -- With one task left there are idle workers, so the room has run out.
  obtain ⟨t, ht, hwait', hheld, hone⟩ :=
    exists_held hlost hhandle hends hs hwait hrunning (by omega)
  have hfailure := ht.failure_eq_none hlost hhandle
  have hfull := ht.sound.full_of_exhausted hfailure (ht.exhausted hwait' hfailure)
  have hle := ht.dispatched_le
  rw [ht.window] at hfull
  obtain ⟨item, hitem⟩ := List.length_eq_one_iff.1 hone
  obtain ⟨u, hu, hflush⟩ := exists_flush hlost hhandle hends ht hwait'
    (hitem ▸ List.mem_singleton_self item)
  have hmoved : u.queue.head = t.queue.dispatched := by
    refine hflush.head.resolve_right ?_
    rintro ⟨other, hother, hne, -⟩
    rw [hitem, List.mem_singleton] at hother
    exact hne (hother ▸ rfl)
  have hleft : u.queue.dispatched < items.length := by
    rw [hflush.dispatched]
    omega
  exact ⟨u, hu, hu.overflowed hlost hhandle hflush.flushes hflush.next hleft (by omega)⟩

/-- Over more items than are assured some run breaks off. -/
theorem exists_overflowed (limit : Nat) (world : σ) (hworkers : workers ≠ [])
    (hmany : assured workers.length limit < items.length) :
    ∃ s : Session α β ω σ ε π, Reach crew handle items workers limit world s ∧ s.Overflowed := by
  have hitems : items ≠ [] := List.length_pos_iff.1 (by omega)
  by_cases hwindow : workers.length + limit < 2 ^ 64
  · by_cases hstaff : workers.length - 1 ≤
        workers.length + limit - (2 ^ 64 - (workers.length + limit))
    · exact exists_overflowed_of_staff hlost hhandle hends world hitems hworkers hwindow hmany
        hstaff
    · exact exists_overflowed_of_window hlost hhandle hends world hitems hworkers hwindow hmany
        (Nat.lt_of_not_le hstaff)
  · obtain ⟨s, hs, hflush, hnext, -, hhead, hdispatched⟩ :=
      exists_begun crew handle limit world hitems hworkers
    exact ⟨s, hs, hs.overflowed hlost hhandle hflush hnext (by omega) (by omega)⟩

end Rounds

/-- A run that returns has handled all items. -/
theorem Returns.handles_all {result : Except (Failure ε) Unit} {log : List (Delivery α β)}
    {world' : σ} (hworkers : workers ≠ []) (hlost : ∀ item p, ¬ crew.ends item p .lost)
    (hhandle : ∀ world delivery, (handle world delivery).2 = none)
    (h : Returns crew handle items workers limit world result log world') :
    result = .ok () ∧
      (log.map fun delivery => delivery.item.index) = List.range items.length := by
  cases h with
  | atOnce hbegin =>
    obtain ⟨rfl, rfl⟩ := (eq_nil_of_begin? hbegin).resolve_right fun h => hworkers h.2.1
    exact ⟨rfl, rfl⟩
  | settled hs hreturned =>
    have hinv := hs.invariant (keeps_nothing crew handle items) trivial
    have hfailure := hs.failure_eq_none hlost hhandle
    rw [State.result, hfailure, hinv.logged,
      hinv.complete (List.length_pos_iff.2 hworkers) hreturned hfailure]
    exact ⟨rfl, rfl⟩

/-- A run that breaks off has handled the items in front of some place, where the window
ends beyond all words. -/
theorem BreaksOff.handles_front {log : List (Delivery α β)} {world' : σ}
    (h : BreaksOff crew handle items workers limit world log world') :
    ∃ handled < items.length, 2 ^ 64 ≤ handled + (workers.length + limit) ∧
      (log.map fun delivery => delivery.item.index) = List.range handled := by
  obtain ⟨hs, hoverflowed⟩ := h
  have hinv := hs.invariant (keeps_nothing crew handle items) trivial
  obtain ⟨-, hlt, hsum⟩ := hinv.overflowed hoverflowed
  exact ⟨_, hlt, hsum, hinv.logged⟩

end Session

/-- Of a queue whose workers are not lost and whose handler refuses nothing, every run that
returns reports success and has handled all items. But a run may break off: then it has
handled those in front of some item, and the window ends beyond all words there. Some run
does exactly if there are more items than are assured, which is not so where the counts fit
into a word together; then the window ends within the words whenever an item is left. -/
theorem breaks_off_iff (crew : Crew α β ω σ π) (handle : Handler α β σ ε) (items : List α)
    (workers : List ω) (limit : Nat) (world : σ) (hworkers : workers ≠ [])
    (hlost : ∀ item p, ¬ crew.ends item p .lost)
    (hhandle : ∀ world delivery, (handle world delivery).2 = none)
    (hends : ∀ item p, ∃ worker output, crew.ends item p (.completed worker output)) :
    (∀ result log world', Session.Returns crew handle items workers limit world result log world' →
      result = .ok () ∧
        (log.map fun delivery => delivery.item.index) = List.range items.length) ∧
    (∀ log world', Session.BreaksOff crew handle items workers limit world log world' →
      ∃ handled < items.length, 2 ^ 64 ≤ handled + (workers.length + limit) ∧
        (log.map fun delivery => delivery.item.index) = List.range handled) ∧
    ((∃ log world', Session.BreaksOff crew handle items workers limit world log world') ↔
      assured workers.length limit < items.length) ∧
    (items.length + workers.length + limit ≤ 2 ^ 64 →
      items.length ≤ assured workers.length limit ∧
      ∀ s : Session α β ω σ ε π, s.Reach crew handle items workers limit world →
        s.queue.pending ≠ [] → s.queue.head + s.queue.window < 2 ^ 64) := by
  refine ⟨fun result log world' h => h.handles_all hworkers hlost hhandle,
    fun log world' h => h.handles_front, ⟨?_, fun hmany => ?_⟩, fun hfit => ⟨?_, ?_⟩⟩
  · rintro ⟨log, world', hs, hoverflowed⟩
    exact Nat.lt_of_not_le fun hfew => hs.not_overflowed hlost hhandle hfew hoverflowed
  · obtain ⟨s, hs, hoverflowed⟩ :=
      Session.exists_overflowed hlost hhandle hends limit world hworkers hmany
    exact ⟨s.log, s.queue.world, .overflowed hs hoverflowed⟩
  · exact le_assured hfit (List.length_pos_iff.2 hworkers)
  · intro s hs hpending
    have hleft := List.length_pos_iff.2 hpending
    have hlength := hs.sound.length_pending
    have hhead := hs.sound.head_add_running_le (hs.failure_eq_none hlost hhandle)
    rw [hs.window]
    omega

/-- One worker with the largest window but one is assured of a single item. -/
theorem breaks_off_alone : ∃ log : List (Delivery Nat Nat),
    Session.BreaksOff doublers (fun world _ => (world, (none : Option Empty))) [3, 5] [()]
      (2 ^ 64 - 2) () log () ∧
    (log.map fun delivery => delivery.item.index) = [0] := by
  obtain ⟨-, hfront, hbreaks, -⟩ := breaks_off_iff doublers
    (fun world _ => (world, (none : Option Empty))) [3, 5] [()] (2 ^ 64 - 2) () (by decide)
    (fun item p hlost => nomatch hlost) (fun _ _ => rfl)
    fun item p => ⟨(), 2 * item.payload, rfl⟩
  obtain ⟨log, world', hlog⟩ := hbreaks.2 (by decide)
  obtain ⟨handled, hlt, hsum, hlogged⟩ := hfront log world' hlog
  simp only [List.length_cons, List.length_nil] at hlt hsum
  obtain rfl : handled = 1 := by omega
  exact ⟨log, hlog, hlogged⟩

/-- On the clock: the second of two items is never begun. -/
theorem second_never_begun :
    let run := (⟨[5, 5], [], [], []⟩ : Timetable).run 1 (2 ^ 64 - 2)
    run.result = .error .overflow ∧ run.state.started = [(0, 0)] ∧
      (run.state.delivered.map fun delivered => delivered.item.index) = [0] :=
  ⟨rfl, rfl, rfl⟩

end Provenance.Queue
