import Mathlib.Data.List.Nodup
import Provenance.Proofs.Queue.Session

/-!
What holds of a queue at any time. The items split into those delivered, those
dispatched and those pending, in this order; while nothing has failed there is
a slot for each dispatched item that is not delivered, empty exactly as long as
the item runs, and every worker is idle or at one of the running items.
-/

namespace Provenance.Queue

variable {α β ω σ ε : Type}

def indexed (items : List α) : List (Nat × α) :=
  items.zipIdx.map fun (payload, index) => (index, payload)

theorem length_indexed (items : List α) : (indexed items).length = items.length := by
  simp [indexed]

theorem map_fst_indexed (items : List α) :
    (indexed items).map Prod.fst = List.range' 0 items.length := by
  rw [indexed, List.map_map]
  exact List.zipIdx_map_snd 0 items

theorem getElem?_of_mem_indexed {items : List α} {p : Nat × α} (h : p ∈ indexed items) :
    items[p.1]? = some p.2 := by
  obtain ⟨⟨payload, index⟩, hmem, rfl⟩ := List.mem_map.1 h
  exact List.mem_zipIdx_iff_getElem?.1 hmem

/-- What a key finds where keys are distinct. -/
theorem find?_key_eq_some {γ κ : Type} [DecidableEq κ] (key : γ → κ) {l : List γ}
    (hdistinct : (l.map key).Nodup) {a : γ} (h : a ∈ l) :
    (l.find? fun b => key b = key a) = some a := by
  cases hfound : l.find? fun b => key b = key a with
  | none =>
    have := List.find?_eq_none.1 hfound a h
    simp at this
  | some b =>
    have hmem := List.mem_of_find?_eq_some hfound
    have hkey : key b = key a := by simpa using List.find?_some hfound
    rw [List.inj_on_of_nodup_map hdistinct hmem h hkey]

structure WorkItem.Started (items : List α) (item : WorkItem α) : Prop where
  payload : items[item.index]? = some item.payload
  total : item.total = items.length
  endedAt : item.endedAt = none

namespace State

def dispatched (s : State α β ω σ ε) : Nat := s.total - s.pending.length

/-- A slot fits an index: it is empty while the item of that index runs. -/
def Fits (s : State α β ω σ ε) (Good : WorkItem α → β → Prop) (index : Nat) :
    Option (WorkItem α × β) → Prop
  | none => ∃ item ∈ s.running, item.index = index
  | some (item, output) =>
    item.index = index ∧ Good item output ∧ ∀ other ∈ s.running, other.index ≠ index

/-- The state of a queue over the given items and as many workers as `staff`,
whose results are good. -/
structure Sound (items : List α) (staff : Nat) (Good : WorkItem α → β → Prop)
    (s : State α β ω σ ε) : Prop where
  total : s.total = items.length
  pending : s.pending = (indexed items).drop s.dispatched
  running : ∀ item ∈ s.running, item.Started items ∧ item.index < s.dispatched
  distinct : (s.running.map WorkItem.index).Nodup
  failed : s.failure ≠ none → s.slots = []
  slots_length : s.failure = none → s.head + s.slots.length = s.dispatched
  slots_fit : s.failure = none → ∀ i slot, s.slots[i]? = some slot → s.Fits Good (s.head + i) slot
  ahead : ∀ item ∈ s.running, s.head ≤ item.index
  staffed : s.failure = none → s.idle.length + s.running.length = staff

def Exhausted (s : State α β ω σ ε) : Prop :=
  s.pending = [] ∨ s.idle = [] ∨ ∃ p ∈ s.pending.head?, s.admits p.1 = false

def begun (total now : Nat) (p : Nat × α) : WorkItem α := ⟨p.1, total, p.2, now, none⟩

/-- What dispatching comes to: the first pending items, each admitted, go to
the first idle workers, one slot is added for each, and then it cannot go on. -/
theorem dispatchFrom_spec (now : Nat) (s : State α β ω σ ε) (pending : List (Nat × α))
    (idle : List ω) : ∃ k, k ≤ pending.length ∧ k ≤ idle.length ∧
      dispatchFrom now s pending idle =
        ({ s with
            pending := pending.drop k
            idle := idle.drop k
            running := s.running ++ (pending.take k).map (begun s.total now)
            slots := s.slots ++ List.replicate k none },
          ((pending.take k).map (begun s.total now)).zip (idle.take k)) ∧
      (∀ p ∈ pending.take k, s.admits p.1 = true) ∧
      (pending.drop k = [] ∨ idle.drop k = [] ∨
        ∃ p ∈ (pending.drop k).head?, s.admits p.1 = false) := by
  fun_induction dispatchFrom now s pending idle with
  | case1 s index payload pending worker idle hadmits item s' s'' started hrest ih =>
    obtain ⟨k, hpending, hidle, heq, hadmitted, hstop⟩ := ih
    refine ⟨k + 1, by simpa using hpending, by simpa using hidle, ?_, ?_, hstop⟩
    · rw [hrest] at heq
      obtain ⟨rfl, rfl⟩ := Prod.mk.inj heq
      simp [s', item, begun, List.replicate_succ]
    · intro p hp
      rcases List.mem_cons.1 hp with rfl | hp
      · exact hadmits
      · exact hadmitted p hp
  | case2 s index payload pending worker idle hadmits =>
    refine ⟨0, by simp, by simp, by simp, by simp, Or.inr (Or.inr ?_)⟩
    exact ⟨(index, payload), rfl, by simpa using hadmits⟩
  | case3 s pending idle hstuck =>
    refine ⟨0, by simp, by simp, by simp, by simp, ?_⟩
    cases pending with
    | nil => exact Or.inl rfl
    | cons p pending =>
      cases idle with
      | nil => exact Or.inr (Or.inl rfl)
      | cons worker idle => exact absurd rfl (hstuck p.1 p.2 pending worker idle rfl)

theorem dispatch_of_failure {s : State α β ω σ ε} (h : s.failure ≠ none) (now : Nat) :
    s.dispatch now = (s, []) := by
  rw [dispatch, if_pos (Option.isSome_iff_ne_none.2 h)]

theorem dispatch_of_no_failure {s : State α β ω σ ε} (h : s.failure = none) (now : Nat) :
    s.dispatch now = dispatchFrom now s s.pending s.idle := by
  simp [dispatch, h]

theorem exhausted_dispatch {s : State α β ω σ ε} (h : s.failure = none) (now : Nat) :
    (s.dispatch now).1.Exhausted := by
  obtain ⟨k, -, -, heq, -, hstop⟩ := dispatchFrom_spec now s s.pending s.idle
  rw [dispatch_of_no_failure h, heq]
  exact hstop

/-- Dispatching leaves all else alone. -/
theorem dispatch_frame (s : State α β ω σ ε) (now : Nat) : ∃ pending idle running slots,
    (s.dispatch now).1 = { s with pending, idle, running, slots } := by
  obtain ⟨k, -, -, heq, -⟩ := dispatchFrom_spec now s s.pending s.idle
  unfold dispatch
  split
  · exact ⟨s.pending, s.idle, s.running, s.slots, rfl⟩
  · rw [heq]
    exact ⟨_, _, _, _, rfl⟩

@[simp]
theorem dispatch_head (s : State α β ω σ ε) (now : Nat) : (s.dispatch now).1.head = s.head := by
  obtain ⟨pending, idle, running, slots, heq⟩ := dispatch_frame s now
  rw [heq]

@[simp]
theorem dispatch_window (s : State α β ω σ ε) (now : Nat) :
    (s.dispatch now).1.window = s.window := by
  obtain ⟨pending, idle, running, slots, heq⟩ := dispatch_frame s now
  rw [heq]

@[simp]
theorem dispatch_failure (s : State α β ω σ ε) (now : Nat) :
    (s.dispatch now).1.failure = s.failure := by
  obtain ⟨pending, idle, running, slots, heq⟩ := dispatch_frame s now
  rw [heq]

@[simp]
theorem dispatch_world (s : State α β ω σ ε) (now : Nat) :
    (s.dispatch now).1.world = s.world := by
  obtain ⟨pending, idle, running, slots, heq⟩ := dispatch_frame s now
  rw [heq]

/-- The items that run after a dispatch are those that ran and those started. -/
theorem dispatch_running (s : State α β ω σ ε) (now : Nat) :
    (s.dispatch now).1.running = s.running ++ (s.dispatch now).2.map Prod.fst := by
  obtain ⟨k, hpending, hidle, heq, -⟩ := dispatchFrom_spec now s s.pending s.idle
  unfold dispatch
  split
  · simp
  · rw [heq, List.map_fst_zip]
    simp only [List.length_map, List.length_take]
    omega

/-- What is started was pending. -/
theorem length_dispatch (s : State α β ω σ ε) (now : Nat) :
    (s.dispatch now).1.pending.length + (s.dispatch now).2.length = s.pending.length := by
  obtain ⟨k, hpending, hidle, heq, -⟩ := dispatchFrom_spec now s s.pending s.idle
  unfold dispatch
  split
  · rfl
  · rw [heq]
    simp only [List.length_drop, List.length_zip, List.length_map, List.length_take]
    omega

/-- Dispatching does not move the bound of the window. -/
theorem overflows_dispatch {s : State α β ω σ ε} (h : s.overflows = false) (now : Nat) :
    (s.dispatch now).1.overflows = false := by
  have hlength := s.length_dispatch now
  rw [Bool.eq_false_iff, ne_eq, overflows_eq_true_iff] at h ⊢
  rw [dispatch_failure, dispatch_head, dispatch_window]
  rintro ⟨hfailure, hpending, hsum⟩
  have hleft := List.length_pos_iff.2 hpending
  exact h ⟨hfailure, List.length_pos_iff.1 (by omega), hsum⟩

/-- Where dispatching stopped it does nothing more. -/
theorem dispatch_of_exhausted {s : State α β ω σ ε} (h : s.failure = none → s.Exhausted)
    (now : Nat) : s.dispatch now = (s, []) := by
  by_cases hfailure : s.failure = none
  · rw [dispatch_of_no_failure hfailure]
    rcases h hfailure with hpending | hidle | ⟨p, hp, hadmits⟩
    · rw [hpending, dispatchFrom, ← hpending]
      exact fun _ _ _ _ _ h => nomatch h
    · rw [hidle, dispatchFrom, ← hidle]
      exact fun _ _ _ _ _ _ h => nomatch h
    · cases hpending : s.pending with
      | nil =>
        rw [hpending] at hp
        cases hp
      | cons q rest =>
        rw [hpending] at hp
        cases hp
        cases hidle : s.idle with
        | nil =>
          rw [dispatchFrom, ← hpending, ← hidle]
          exact fun _ _ _ _ _ _ h => nomatch h
        | cons worker idle =>
          rw [dispatchFrom, if_neg (by simp [hadmits]), ← hpending, ← hidle]
  · exact dispatch_of_failure hfailure now

/-- Dispatching completes nothing. -/
theorem next?_dispatch {s : State α β ω σ ε} (h : s.next? = none) (now : Nat) :
    (s.dispatch now).1.next? = none := by
  obtain ⟨k, -, -, heq, -⟩ := dispatchFrom_spec now s s.pending s.idle
  unfold dispatch
  split
  · exact h
  · rename_i hfailure
    rw [heq]
    simp only [next?, hfailure, Bool.false_eq_true, if_false] at h ⊢
    cases hs : s.slots with
    | cons slot slots => simpa [hs] using h
    | nil => cases k <;> simp [List.replicate_succ]

/-- Accepting an end leaves all else alone. -/
theorem accept_frame (s : State α β ω σ ε) (event : Event β ω) :
    ∃ idle running slots failure buffered, running.Sublist s.running ∧
      s.accept event = { s with idle, running, slots, failure, buffered } := by
  have hsub (index : Nat) :=
    List.filter_sublist (l := s.running) (p := fun item => item.index ≠ index)
  cases event with
  | lost index =>
    unfold accept
    dsimp only
    split
    · exact ⟨_, _, _, _, _, hsub index, rfl⟩
    · exact ⟨_, _, _, _, _, hsub index, rfl⟩
  | completed index endedAt worker output =>
    unfold accept
    dsimp only
    split
    · exact ⟨_, _, _, _, _, List.Sublist.refl _, rfl⟩
    · split
      · exact ⟨_, _, _, _, _, hsub index, rfl⟩
      · exact ⟨_, _, _, _, _, hsub index, rfl⟩

@[simp]
theorem accept_head (s : State α β ω σ ε) (event : Event β ω) : (s.accept event).head = s.head := by
  obtain ⟨idle, running, slots, failure, buffered, -, heq⟩ := accept_frame s event
  rw [heq]

@[simp]
theorem accept_window (s : State α β ω σ ε) (event : Event β ω) :
    (s.accept event).window = s.window := by
  obtain ⟨idle, running, slots, failure, buffered, -, heq⟩ := accept_frame s event
  rw [heq]

@[simp]
theorem accept_world (s : State α β ω σ ε) (event : Event β ω) :
    (s.accept event).world = s.world := by
  obtain ⟨idle, running, slots, failure, buffered, -, heq⟩ := accept_frame s event
  rw [heq]

@[simp]
theorem accept_pending (s : State α β ω σ ε) (event : Event β ω) :
    (s.accept event).pending = s.pending := by
  obtain ⟨idle, running, slots, failure, buffered, -, heq⟩ := accept_frame s event
  rw [heq]

theorem mem_running_of_mem_accept {s : State α β ω σ ε} {event : Event β ω} {item : WorkItem α}
    (h : item ∈ (s.accept event).running) : item ∈ s.running := by
  obtain ⟨idle, running, slots, failure, buffered, hsub, heq⟩ := accept_frame s event
  rw [heq] at h
  exact hsub.subset h

theorem accept_failure_completed (s : State α β ω σ ε) (index endedAt : Nat) (worker : ω)
    (output : β) : (s.accept (.completed index endedAt worker output)).failure = s.failure := by
  unfold accept
  dsimp only
  split
  · rfl
  · split
    · rfl
    · rfl

/-- A lost worker is a failure, unless there was one before. -/
theorem accept_failure_lost (s : State α β ω σ ε) (index : Nat) :
    (s.accept (.lost index)).failure = s.failure.or (some .workerLost) := by
  unfold accept fail
  cases hfailure : s.failure with
  | none => simp
  | some failure => simp

/-- Delivering leaves all else alone. -/
theorem deliverNext_frame (handle : Handler α β σ ε) (s : State α β ω σ ε) (item : WorkItem α)
    (output : β) : ∃ slots failure buffered world, s.deliverNext handle item output =
      { s with head := s.head + 1, slots, failure, buffered, world } := by
  unfold deliverNext
  dsimp only
  split
  · exact ⟨_, _, _, _, rfl⟩
  · exact ⟨_, _, _, _, rfl⟩

@[simp]
theorem deliverNext_head (handle : Handler α β σ ε) (s : State α β ω σ ε) (item : WorkItem α)
    (output : β) : (s.deliverNext handle item output).head = s.head + 1 := by
  obtain ⟨slots, failure, buffered, world, heq⟩ := deliverNext_frame handle s item output
  rw [heq]

@[simp]
theorem deliverNext_window (handle : Handler α β σ ε) (s : State α β ω σ ε) (item : WorkItem α)
    (output : β) : (s.deliverNext handle item output).window = s.window := by
  obtain ⟨slots, failure, buffered, world, heq⟩ := deliverNext_frame handle s item output
  rw [heq]

@[simp]
theorem deliverNext_running (handle : Handler α β σ ε) (s : State α β ω σ ε) (item : WorkItem α)
    (output : β) : (s.deliverNext handle item output).running = s.running := by
  obtain ⟨slots, failure, buffered, world, heq⟩ := deliverNext_frame handle s item output
  rw [heq]

@[simp]
theorem deliverNext_pending (handle : Handler α β σ ε) (s : State α β ω σ ε) (item : WorkItem α)
    (output : β) : (s.deliverNext handle item output).pending = s.pending := by
  obtain ⟨slots, failure, buffered, world, heq⟩ := deliverNext_frame handle s item output
  rw [heq]

/-- World and failure after a delivery are those the handler leaves. -/
theorem deliverNext_handled (handle : Handler α β σ ε) {s : State α β ω σ ε}
    (hfailure : s.failure = none) (item : WorkItem α) (output : β) :
    (s.deliverNext handle item output).world =
        (handle s.world ⟨item, output, s.buffered - 1⟩).1 ∧
      (s.deliverNext handle item output).failure =
        (handle s.world ⟨item, output, s.buffered - 1⟩).2.map .handler := by
  unfold deliverNext fail
  dsimp only
  split
  · rename_i heq
    rw [heq]
    exact ⟨rfl, hfailure⟩
  · rename_i heq
    rw [heq]
    exact ⟨rfl, rfl⟩

theorem dispatched_initial (items : List α) (workers : List ω) (limit : Nat) (world : σ) :
    (initial items workers limit world : State α β ω σ ε).dispatched = 0 := by
  simp [dispatched, initial]

namespace Sound

variable {items : List α} {staff : Nat} {Good : WorkItem α → β → Prop} {s : State α β ω σ ε}

theorem initial (items : List α) (workers : List ω) (limit : Nat) (world : σ)
    (Good : WorkItem α → β → Prop) :
    (initial items workers limit world : State α β ω σ ε).Sound items workers.length Good := by
  refine ⟨rfl, ?_, ?_, ?_, ?_, ?_, ?_, ?_, ?_⟩
  · rw [dispatched_initial]
    rfl
  · simp [State.initial]
  · simp [State.initial]
  · simp [State.initial]
  · intro _
    rw [dispatched_initial]
    rfl
  · simp [State.initial]
  · simp [State.initial]
  · simp [State.initial]

/-- Of the state the world is free to change. -/
theorem setWorld (hs : s.Sound items staff Good) (world : σ) :
    Sound items staff Good { s with world } :=
  ⟨hs.total, hs.pending, hs.running, hs.distinct, hs.failed, hs.slots_length, hs.slots_fit,
    hs.ahead, hs.staffed⟩

/-- So is the gauge. -/
theorem setBuffered (hs : s.Sound items staff Good) (buffered : Int) :
    Sound items staff Good { s with buffered } :=
  ⟨hs.total, hs.pending, hs.running, hs.distinct, hs.failed, hs.slots_length, hs.slots_fit,
    hs.ahead, hs.staffed⟩

theorem length_pending (hs : s.Sound items staff Good) :
    s.dispatched + s.pending.length = items.length := by
  have hlen := congrArg List.length hs.pending
  rw [List.length_drop, length_indexed] at hlen
  have htotal := hs.total
  unfold dispatched at hlen ⊢
  omega

/-- The next pending item is the next to be dispatched. -/
theorem index_pending (hs : s.Sound items staff Good) {p : Nat × α} (h : p ∈ s.pending.head?) :
    p.1 = s.dispatched := by
  rw [hs.pending, List.head?_drop, indexed, List.getElem?_map, List.getElem?_zipIdx,
    Option.map_map] at h
  obtain ⟨payload, -, rfl⟩ := Option.map_eq_some_iff.1 h
  simp

/-- The items that are dispatched next have the next indices. -/
theorem map_index_begun (hs : s.Sound items staff Good) {k : Nat} (hk : k ≤ s.pending.length)
    (now : Nat) : ((s.pending.take k).map (begun s.total now)).map WorkItem.index =
      List.range' s.dispatched k := by
  have hlen := hs.length_pending
  rw [List.map_map]
  have hfst : WorkItem.index ∘ (begun s.total now : Nat × α → WorkItem α) = Prod.fst := rfl
  rw [hfst, hs.pending, List.map_take, List.map_drop, map_fst_indexed, List.drop_range',
    List.take_range'_of_length_ge (by omega)]
  congr 1
  omega

theorem started_begun (hs : s.Sound items staff Good) {k now : Nat} {item : WorkItem α}
    (h : item ∈ (s.pending.take k).map (begun s.total now)) : item.Started items := by
  obtain ⟨p, hp, rfl⟩ := List.mem_map.1 h
  have hmem : p ∈ indexed items := by
    have := List.mem_of_mem_take hp
    rw [hs.pending] at this
    exact List.mem_of_mem_drop this
  exact ⟨getElem?_of_mem_indexed hmem, hs.total, rfl⟩

theorem dispatch (hs : s.Sound items staff Good) (now : Nat) :
    (s.dispatch now).1.Sound items staff Good := by
  by_cases hfailure : s.failure = none
  · obtain ⟨k, hpending, hidle, heq, -, -⟩ := dispatchFrom_spec now s s.pending s.idle
    have hlen := hs.length_pending
    have hindex := hs.map_index_begun hpending now
    have hstarted (item : WorkItem α) (h : item ∈ (s.pending.take k).map (begun s.total now)) :=
      hs.started_begun h
    rw [dispatch_of_no_failure hfailure, heq]
    generalize (s.pending.take k).map (begun s.total now) = fresh at hindex hstarted
    have hfresh (item : WorkItem α) (h : item ∈ fresh) :
        s.dispatched ≤ item.index ∧ item.index < s.dispatched + k := by
      have := List.mem_map_of_mem (f := WorkItem.index) h
      rw [hindex, List.mem_range'_1] at this
      exact this
    have hcount : fresh.length = k := by
      have := congrArg List.length hindex
      simpa using this
    have hdispatched : State.dispatched
        { s with
          pending := s.pending.drop k
          idle := s.idle.drop k
          running := s.running ++ fresh
          slots := s.slots ++ List.replicate k none } = s.dispatched + k := by
      have htotal := hs.total
      simp only [State.dispatched, List.length_drop] at hlen ⊢
      omega
    have hslots := hs.slots_length hfailure
    refine ⟨hs.total, ?_, ?_, ?_, ?_, ?_, ?_, ?_, ?_⟩
    · rw [hdispatched, ← List.drop_drop, ← hs.pending]
    · intro item hitem
      rw [hdispatched]
      rcases List.mem_append.1 hitem with hold | hnew
      · have := hs.running item hold
        exact ⟨this.1, by omega⟩
      · exact ⟨hstarted item hnew, (hfresh item hnew).2⟩
    · rw [List.map_append, List.nodup_append]
      refine ⟨hs.distinct, ?_, ?_⟩
      · rw [hindex]
        exact List.nodup_range'
      · intro i hold j hnew
        obtain ⟨item, hitem, rfl⟩ := List.mem_map.1 hold
        rw [hindex, List.mem_range'_1] at hnew
        have := (hs.running item hitem).2
        omega
    · exact fun hne => absurd hfailure hne
    · intro _
      rw [hdispatched]
      simp only [List.length_append, List.length_replicate]
      omega
    · intro _ i slot hslot
      dsimp only at hslot ⊢
      by_cases hi : i < s.slots.length
      · rw [List.getElem?_append_left hi] at hslot
        have hfit := hs.slots_fit hfailure i slot hslot
        cases slot with
        | none =>
          obtain ⟨item, hitem, hindex⟩ := hfit
          exact ⟨item, List.mem_append_left _ hitem, hindex⟩
        | some result =>
          refine ⟨hfit.1, hfit.2.1, fun other hother => ?_⟩
          rcases List.mem_append.1 hother with hold | hnew
          · exact hfit.2.2 other hold
          · have := hfresh other hnew
            omega
      · rw [List.getElem?_append_right (by omega), List.getElem?_replicate] at hslot
        split at hslot
        · cases hslot
          have hmem : s.head + i ∈ fresh.map WorkItem.index := by
            rw [hindex, List.mem_range'_1]
            omega
          obtain ⟨item, hitem, hat⟩ := List.mem_map.1 hmem
          exact ⟨item, List.mem_append_right _ hitem, hat⟩
        · cases hslot
    · intro item hitem
      rcases List.mem_append.1 hitem with hold | hnew
      · exact hs.ahead item hold
      · have := (hfresh item hnew).1
        dsimp only
        omega
    · intro _
      have := hs.staffed hfailure
      simp only [List.length_drop, List.length_append]
      omega
  · rwa [dispatch_of_failure hfailure]

theorem running?_eq (hs : s.Sound items staff Good) {item : WorkItem α} (hitem : item ∈ s.running) :
    s.running? item.index = some item :=
  find?_key_eq_some WorkItem.index hs.distinct hitem

/-- All but the item that ended run on. -/
theorem accept_running (hs : s.Sound items staff Good) {item : WorkItem α}
    (hitem : item ∈ s.running)
    (outcome : Outcome β ω) (endedAt : Nat) :
    (s.accept (outcome.event item.index endedAt)).running =
      s.running.filter fun other => other.index ≠ item.index := by
  cases outcome with
  | lost =>
    simp only [State.accept, Outcome.event]
    split
    · rfl
    · rfl
  | completed worker output =>
    simp only [State.accept, Outcome.event, hs.running?_eq hitem]
    split
    · rfl
    · rfl

/-- The items that run are one that ends and the others. -/
theorem perm_running (hs : s.Sound items staff Good) {item : WorkItem α}
    (hitem : item ∈ s.running) : (s.running.map WorkItem.index).Perm
      (item.index ::
        (s.running.filter fun other => other.index ≠ item.index).map WorkItem.index) := by
  have hfilter : (s.running.filter fun other => other.index ≠ item.index).map WorkItem.index =
      (s.running.map WorkItem.index).erase item.index := by
    rw [hs.distinct.erase_eq_filter, List.filter_map]
    congr 1
    exact List.filter_congr fun other _ => Bool.eq_iff_iff.2 (by simp)
  rw [hfilter]
  exact List.perm_cons_erase (List.mem_map_of_mem hitem)

/-- An item that ended leaves the others running. -/
theorem length_filter_running (hs : s.Sound items staff Good) {item : WorkItem α}
    (hitem : item ∈ s.running) :
    (s.running.filter fun other => other.index ≠ item.index).length + 1 = s.running.length := by
  have hlen := (hs.perm_running hitem).length_eq
  rw [List.length_cons, List.length_map, List.length_map] at hlen
  exact hlen.symm

/-- Items may stop running, and once the queue has failed workers come and go. -/
theorem of_failure (hs : s.Sound items staff Good) (running : List (WorkItem α))
    (hsub : running.Sublist s.running) (idle : List ω) (failure : Failure ε) (buffered : Int) :
    Sound items staff Good
      { s with running, idle, slots := [], failure := some failure, buffered } := by
  refine ⟨hs.total, hs.pending, ?_, ?_, ?_, ?_, ?_, ?_, ?_⟩
  · exact fun item hitem => hs.running item (hsub.subset hitem)
  · exact hs.distinct.sublist (hsub.map _)
  · exact fun _ => rfl
  · exact fun h => nomatch h
  · exact fun h => nomatch h
  · exact fun item hitem => hs.ahead item (hsub.subset hitem)
  · exact fun h => nomatch h

theorem accept (hs : s.Sound items staff Good) {item : WorkItem α} (hitem : item ∈ s.running)
    {outcome : Outcome β ω} (endedAt : Nat)
    (hgood : ∀ worker output, outcome = .completed worker output →
      Good { item with endedAt := some endedAt } output) :
    (s.accept (outcome.event item.index endedAt)).Sound items staff Good := by
  have hsub := List.filter_sublist (l := s.running) (p := fun other => other.index ≠ item.index)
  cases hfailure : s.failure with
  | some failure =>
    have hslots : s.slots = [] := hs.failed (by simp [hfailure])
    have h := hs.of_failure _ hsub
    cases outcome with
    | lost =>
      simpa [State.accept, Outcome.event, hfailure, hslots] using h s.idle failure s.buffered
    | completed worker output =>
      simpa [State.accept, Outcome.event, hs.running?_eq hitem, hfailure, hslots] using
        h (s.idle ++ [worker]) failure s.buffered
  | none =>
    cases outcome with
    | lost =>
      simpa [State.accept, Outcome.event, hfailure, State.fail] using
        hs.of_failure _ hsub s.idle .workerLost _
    | completed worker output =>
      have hhead := hs.ahead item hitem
      simp only [State.accept, Outcome.event, hs.running?_eq hitem, hfailure, Option.isSome_none,
        Bool.false_eq_true, if_false]
      refine ⟨hs.total, hs.pending, ?_, ?_, ?_, ?_, ?_, ?_, ?_⟩
      · exact fun other hother => hs.running other (hsub.subset hother)
      · exact hs.distinct.sublist (hsub.map _)
      · exact fun h => absurd rfl h
      · intro _
        rw [List.length_set]
        exact hs.slots_length hfailure
      · intro _ i slot hslot
        dsimp only at hslot ⊢
        rw [List.getElem?_set] at hslot
        split at hslot
        · rename_i hi
          split at hslot
          · cases hslot
            refine ⟨by dsimp only; omega, hgood worker output rfl, fun other hother => ?_⟩
            have hne : other.index ≠ item.index := by simpa using (List.mem_filter.1 hother).2
            omega
          · cases hslot
        · have hfit := hs.slots_fit hfailure i slot hslot
          cases slot with
          | none =>
            obtain ⟨other, hother, hindex⟩ := hfit
            refine ⟨other, List.mem_filter.2 ⟨hother, ?_⟩, hindex⟩
            have : other.index ≠ item.index := by omega
            simpa using this
          | some result =>
            exact ⟨hfit.1, hfit.2.1, fun other hother => hfit.2.2 other (hsub.subset hother)⟩
      · exact fun other hother => hs.ahead other (hsub.subset hother)
      · intro _
        have hstaffed := hs.staffed hfailure
        have hlen := hs.length_filter_running hitem
        simp only [List.length_append, List.length_singleton]
        omega

/-- The result to be delivered now is that of the item at the head. -/
theorem next (hs : s.Sound items staff Good) {item : WorkItem α} {output : β}
    (hnext : s.next? = some (item, output)) : item.index = s.head ∧ Good item output ∧
      ∀ other ∈ s.running, s.head < other.index := by
  obtain ⟨hfailure, slots, hslots⟩ := next?_eq_some_iff.1 hnext
  obtain ⟨hindex, hgood, hrun⟩ := hs.slots_fit hfailure 0 (some (item, output)) (by simp [hslots])
  refine ⟨hindex, hgood, fun other hother => ?_⟩
  have hne := hrun other hother
  have hle := hs.ahead other hother
  omega

theorem deliverNext (hs : s.Sound items staff Good) {handle : Handler α β σ ε} {item : WorkItem α}
    {output : β} (hnext : s.next? = some (item, output)) :
    (s.deliverNext handle item output).Sound items staff Good := by
  obtain ⟨hfailure, slots, hslots⟩ := next?_eq_some_iff.1 hnext
  obtain ⟨-, -, hrun⟩ := hs.next hnext
  have hlen := hs.slots_length hfailure
  rw [hslots, List.length_cons] at hlen
  unfold State.deliverNext
  dsimp only
  split
  · rename_i world _
    refine ⟨hs.total, hs.pending, hs.running, hs.distinct, ?_, ?_, ?_, hrun, hs.staffed⟩
    · exact fun h => absurd hfailure h
    · intro _
      rw [hslots, List.tail_cons]
      change s.head + 1 + slots.length = s.dispatched
      omega
    · intro _ i slot hslot
      rw [hslots, List.tail_cons] at hslot
      have hfit := hs.slots_fit hfailure (i + 1) slot (by simpa [hslots] using hslot)
      rwa [← Nat.add_assoc, Nat.add_right_comm] at hfit
  · rename_i world cause _
    refine ⟨hs.total, hs.pending, hs.running, hs.distinct, ?_, ?_, ?_, hrun, ?_⟩
    · exact fun _ => rfl
    · exact fun h => nomatch h
    · exact fun h => nomatch h
    · exact fun h => nomatch h

end Sound

end State

end Provenance.Queue
