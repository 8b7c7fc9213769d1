import Provenance.Proofs.Queue.Invariant

/-!
What the handler is given. Results come in the order of the items whatever the
order in which tasks end, each with an output that a worker produced for it, and
a run that returns without a failure has handed on all of them.
-/

namespace Provenance.Queue

variable {α β ω σ ε π : Type}

inductive Crew.Comes (crew : Crew α β ω σ π) (item : WorkItem α) (worker : ω) : π → Prop
  | begins : Crew.Comes crew item worker (crew.begins item worker)
  | moves {world world' : σ} {p p' : π} (hp : Crew.Comes crew item worker p)
      (hmove : crew.moves item world p world' p') : Crew.Comes crew item worker p'

structure Crew.Serves (crew : Crew α β ω σ π) (items : List α) (item : WorkItem α) (output : β) :
    Prop where
  payload : items[item.index]? = some item.payload
  total : item.total = items.length
  isDone : item.isDone = true
  output : ∃ worker p worker', crew.Comes { item with endedAt := none } worker p ∧
    crew.ends { item with endedAt := none } p (.completed worker' output)

namespace Session

/-- A run that returned: its result, what the handler was given, and the world. -/
inductive Returns (crew : Crew α β ω σ π) (handle : Handler α β σ ε) (items : List α)
    (workers : List ω) (limit : Nat) (world : σ) :
    Except (Failure ε) Unit → List (Delivery α β) → σ → Prop
  | atOnce {result : Except (Failure ε) Unit}
      (hbegin : (begin? items workers limit world : Except _ (State α β ω σ ε)) = .error result) :
      Returns crew handle items workers limit world result [] world
  | settled {s : Session α β ω σ ε π} (hs : Reach crew handle items workers limit world s)
      (hreturned : s.Returned) :
      Returns crew handle items workers limit world s.queue.result s.log s.queue.world

/-- A run that broke off: what the handler was given, and the world. -/
inductive BreaksOff (crew : Crew α β ω σ π) (handle : Handler α β σ ε) (items : List α)
    (workers : List ω) (limit : Nat) (world : σ) : List (Delivery α β) → σ → Prop
  | overflowed {s : Session α β ω σ ε π} (hs : Reach crew handle items workers limit world s)
      (hoverflowed : s.Overflowed) :
      BreaksOff crew handle items workers limit world s.log s.queue.world

section Staffed

variable {crew : Crew α β ω σ π} {handle : Handler α β σ ε} {items : List α} {workers : List ω}
  {limit : Nat} {world world' : σ}

theorem Reach.staffed {s : Session α β ω σ ε π}
    (hs : Reach crew handle items workers limit world s) : workers ≠ [] := by
  induction hs with
  | start _ hbegin => exact (eq_initial_of_begin? hbegin).1
  | step _ _ ih => exact ih

/-- A run that is not refused for want of workers has some, or nothing to do. -/
theorem Returns.staffed {result : Except (Failure ε) Unit} {log : List (Delivery α β)}
    (h : Returns crew handle items workers limit world result log world')
    (hresult : result ≠ .error .noWorkers) : items = [] ∨ workers ≠ [] := by
  cases h with
  | atOnce hbegin =>
    rcases eq_nil_of_begin? hbegin with ⟨hitems, -⟩ | ⟨-, -, hrefused⟩
    · exact .inl hitems
    · exact absurd hrefused hresult
  | settled hs => exact .inr hs.staffed

end Staffed

variable {crew : Crew α β ω σ π} {handle : Handler α β σ ε} {items : List α}
  {Kept : List (Delivery α β) → Option (Failure ε) → σ → Prop}
  {OnTrack : WorkItem α → π → Prop} {Good : WorkItem α → β → Prop}
  {staff limit : Nat} {s : Session α β ω σ ε π}

namespace Invariant

/-- A running item has its slot. -/
theorem slot_lt (hs : s.Invariant items staff limit Kept OnTrack Good)
    (hfailure : s.queue.failure = none) {item : WorkItem α} (hitem : item ∈ s.queue.running) :
    s.queue.head ≤ item.index ∧ item.index - s.queue.head < s.queue.slots.length := by
  have hahead := hs.queue.ahead item hitem
  have hdispatched := (hs.queue.running item hitem).2
  have hslots := hs.queue.slots_length hfailure
  omega

/-- Where nothing runs and nothing has failed, no slot is left. -/
theorem slots_eq_nil (hs : s.Invariant items staff limit Kept OnTrack Good)
    (hreturned : s.Returned) (hfailure : s.queue.failure = none) : s.queue.slots = [] := by
  have hrunning := hreturned.running_eq_nil
  have hnext := (hs.waits hreturned.1 hfailure).1
  cases hslots : s.queue.slots with
  | nil => rfl
  | cons slot slots =>
    have hfit := hs.queue.slots_fit hfailure 0 slot (by rw [hslots, List.getElem?_cons_zero])
    cases slot with
    | none =>
      obtain ⟨item, hitem, -⟩ := hfit
      rw [hrunning] at hitem
      cases hitem
    | some result =>
      have := State.next?_eq_some_iff.2 ⟨hfailure, slots, hslots⟩
      rw [hnext] at this
      cases this

/-- A run that returns without a failure has handed on all: the window admits the
item at the head, so where nothing runs nothing is pending. -/
theorem complete (hs : s.Invariant items staff limit Kept OnTrack Good) (hstaff : 0 < staff)
    (hreturned : s.Returned) (hfailure : s.queue.failure = none) :
    s.queue.head = items.length := by
  have hslots := hs.queue.slots_length hfailure
  rw [hs.slots_eq_nil hreturned hfailure, List.length_nil] at hslots
  have hlen := hs.queue.length_pending
  have hrunning := hreturned.running_eq_nil
  have hstaffed := hs.queue.staffed hfailure
  rw [hrunning, List.length_nil] at hstaffed
  rcases (hs.waits hreturned.1 hfailure).2 with hpending | hidle | ⟨p, hp, hadmits⟩
  · rw [hpending, List.length_nil] at hlen
    omega
  · rw [hidle, List.length_nil] at hstaffed
    omega
  · have hindex := hs.queue.index_pending hp
    unfold State.admits at hadmits
    rw [hs.window, decide_eq_false_iff_not, Nat.not_lt] at hadmits
    omega

/-- A run breaks off with items left, where the window ends beyond all words. -/
theorem overflowed (hs : s.Invariant items staff limit Kept OnTrack Good) (h : s.Overflowed) :
    s.queue.failure = none ∧ s.queue.head < items.length ∧
      2 ^ 64 ≤ s.queue.head + (staff + limit) := by
  obtain ⟨hfailure, hpending, hsum⟩ := State.overflows_eq_true_iff.1 h.2.2
  rw [hs.window] at hsum
  have hlen := hs.queue.length_pending
  have hslots := hs.queue.slots_length hfailure
  have hleft := List.length_pos_iff.2 hpending
  exact ⟨hfailure, by omega, hsum⟩

end Invariant

/-- Workers that are never lost and a handler: of the world nothing is kept, of
each task that a worker began it, and a failure is the handler's. -/
theorem keeps_order (crew : Crew α β ω σ π) (handle : Handler α β σ ε) (items : List α)
    (hlost : ∀ item p, ¬ crew.ends item p .lost) :
    Keeps crew handle items
      (fun _ failure _ => ∀ f, failure = some f →
        ∃ world delivery, (handle world delivery).2 ≠ none)
      (fun item p => ∃ worker, crew.Comes item worker p) (crew.Serves items) where
  begins item worker _ := ⟨worker, .begins⟩
  moves log failure world item p world' p' hkept _ _ htrack hmove := by
    obtain ⟨worker, hcomes⟩ := htrack
    exact ⟨hkept, worker, hcomes.moves hmove⟩
  stirs log failure world world' hkept _ := hkept
  completes item p worker output endedAt hstarted htrack hend := by
    obtain ⟨first, hcomes⟩ := htrack
    have hitem : { { item with endedAt := some endedAt } with endedAt := none } = item := by
      rw [← hstarted.endedAt]
    exact ⟨hstarted.payload, hstarted.total, rfl, first, p, worker, hitem ▸ hcomes, hitem ▸ hend⟩
  loses log world item p _ _ _ hend := absurd hend (hlost item p)
  delivers log world item output waiting _ _ _ := by
    intro f hf
    refine ⟨world, ⟨item, output, waiting⟩, ?_⟩
    intro hnone
    rw [hnone] at hf
    cases hf

end Session

/-- The handler is given the results in the order of the items, in whatever
order the tasks end, and a run that returns without a failure gave it all. Where
the counts fit into a word together, no run breaks off. -/
theorem handled_in_order (crew : Crew α β ω σ π) (handle : Handler α β σ ε) (items : List α)
    (workers : List ω) (limit : Nat) (world : σ) (hworkers : workers ≠ [])
    (hfit : items.length + workers.length + limit < 2 ^ 64)
    (hlost : ∀ item p, ¬ crew.ends item p .lost) :
    (∀ s : Session α β ω σ ε π, s.Reach crew handle items workers limit world →
      (s.log.map fun delivery => delivery.item.index) = List.range s.queue.head ∧
      (∀ delivery ∈ s.log, crew.Serves items delivery.item delivery.output) ∧
      (s.queue.failure = none → ∀ item ∈ s.queue.running,
        s.queue.head ≤ item.index ∧ item.index - s.queue.head < s.queue.slots.length) ∧
      ¬ s.Overflowed) ∧
    ∀ result log world', Session.Returns crew handle items workers limit world result log world' →
      (result = .ok () →
        (log.map fun delivery => delivery.item.index) = List.range items.length) ∧
      ((∀ world delivery, (handle world delivery).2 = none) → result = .ok ()) := by
  have hkeeps := Session.keeps_order crew handle items hlost
  have hinv (s : Session α β ω σ ε π) (hs : s.Reach crew handle items workers limit world) :=
    hs.invariant hkeeps (fun f h => nomatch h)
  constructor
  · intro s hs
    have h := hinv s hs
    refine ⟨h.logged, h.good, fun hfailure item hitem => h.slot_lt hfailure hitem, ?_⟩
    intro hoverflowed
    obtain ⟨-, hhead, hsum⟩ := h.overflowed hoverflowed
    omega
  · intro result log world' hreturns
    cases hreturns with
    | atOnce hbegin =>
      obtain ⟨rfl, rfl⟩ := (eq_nil_of_begin? hbegin).resolve_right fun h => hworkers h.2.1
      exact ⟨fun _ => rfl, fun _ => rfl⟩
    | settled hs hreturned =>
      rename_i s
      have h := hinv s hs
      have hstaff : 0 < workers.length := List.length_pos_iff.2 hworkers
      cases hfailure : s.queue.failure with
      | none =>
        refine ⟨fun _ => ?_, fun _ => ?_⟩
        · rw [h.logged, h.complete hstaff hreturned hfailure]
        · simp [State.result, hfailure]
      | some failure =>
        refine ⟨fun hok => ?_, fun hnever => ?_⟩
        · simp [State.result, hfailure] at hok
        · obtain ⟨world, delivery, hfails⟩ := h.kept failure hfailure
          exact absurd (hnever world delivery) hfails

def doublers : Crew Nat Nat Unit Unit Unit where
  begins _ _ := ()
  moves _ world _ world' _ := world = world'
  ends item _ outcome := outcome = .completed () (2 * item.payload)
  stirs _ _ := False

/-- Two items of which the second ends first. -/
theorem doubled_in_order : ∃ log : List (Delivery Nat Nat),
    Session.Returns doublers (fun world _ => (world, (none : Option Empty))) [3, 5] [(), ()] 0 ()
      (.ok ()) log () ∧
    (log.map fun delivery => delivery.item.index) = [0, 1] := by
  have hdispatched : Session.Reach doublers (fun world _ => (world, (none : Option Empty))) [3, 5]
      [(), ()] 0 () _ := .step (.start (fun _ => ()) rfl) (.resume 0 rfl rfl rfl)
  have hsecond := hdispatched.step
    (.join 4 rfl (List.mem_cons_of_mem _ List.mem_cons_self) rfl)
  have hwaiting := hsecond.step (.resume 4 rfl rfl rfl)
  have hfirst := hwaiting.step (.join 7 rfl List.mem_cons_self rfl)
  have hdelivered := (hfirst.step (.deliver rfl rfl)).step (.deliver rfl rfl)
  have hreturns := Session.Returns.settled (hdelivered.step (.resume 7 rfl rfl rfl)) ⟨rfl, rfl⟩
  refine ⟨_, hreturns, ?_⟩
  exact ((handled_in_order doublers _ [3, 5] [(), ()] 0 () (by decide) (by decide)
    (by intro item p hlost; cases hlost)).2 _ _ _ hreturns).1 rfl

end Provenance.Queue
