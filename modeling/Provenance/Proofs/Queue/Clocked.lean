import Provenance.Proofs.Queue.Order

/-!
The queue on the clock is one of the runs in which everything is free. Each item
that runs is unstarted, asleep or at its end, and whatever the clock does with
it is a move of its task. The rounds that the loop is given are enough.
-/

namespace Provenance.Queue

variable {α β ω σ ε : Type}

inductive Labor (β ω σ : Type) where
  | fresh (worker : ω)
  | asleep (deadline : Nat) (resume : σ → σ × Outcome β ω)
  | ended (outcome : Outcome β ω)

def Actors.advance (actors : Actors α β ω σ ε) (item : WorkItem α) (world : Timed σ) :
    Labor β ω σ → Timed σ × Labor β ω σ
  | .fresh worker =>
    match actors.work item.startedAt world.state item worker with
    | (state, .ended outcome) =>
      (⟨world.now, actors.finish item.startedAt state item outcome⟩, .ended outcome)
    | (state, .waiting duration resume) =>
      (⟨world.now, state⟩, .asleep (item.startedAt + duration) resume)
  | .asleep deadline resume =>
    let (state, outcome) := resume world.state
    (⟨world.now, actors.finish deadline state item outcome⟩, .ended outcome)
  | .ended outcome => (world, .ended outcome)

/-- Workers on the clock. Besides what they do, time passes. -/
def Actors.crew (actors : Actors α β ω σ ε) : Crew α β ω (Timed σ) (Labor β ω σ) where
  begins _ worker := .fresh worker
  moves item world labor world' labor' := actors.advance item world labor = (world', labor')
  ends _ labor outcome := labor = .ended outcome
  stirs world world' := world'.state = world.state

def Event.index : Event β ω → Nat
  | .completed index _ _ _ => index
  | .lost index => index

def Event.outcome : Event β ω → Outcome β ω
  | .completed _ _ worker output => .completed worker output
  | .lost _ => .lost

theorem Event.exists_eq (event : Event β ω) :
    ∃ endedAt, event = event.outcome.event event.index endedAt := by
  cases event with
  | completed index endedAt worker output => exact ⟨endedAt, rfl⟩
  | lost index => exact ⟨0, rfl⟩

namespace Session

variable {π : Type} {crew : Crew α β ω σ π} {handle : Handler α β σ ε} {items : List α}
  {workers : List ω} {limit : Nat} {world : σ}

abbrev Steps (crew : Crew α β ω σ π) (handle : Handler α β σ ε) :
    Session α β ω σ ε π → Session α β ω σ ε π → Prop :=
  Relation.ReflTransGen (Step crew handle)

theorem Reach.steps {s s' : Session α β ω σ ε π}
    (hs : Reach crew handle items workers limit world s) (hsteps : Steps crew handle s s') :
    Reach crew handle items workers limit world s' := by
  induction hsteps with
  | refl => exact hs
  | tail _ hstep ih => exact ih.step hstep

theorem keeps_nothing (crew : Crew α β ω σ π) (handle : Handler α β σ ε) (items : List α) :
    Keeps crew handle items (fun _ _ _ => True) (fun _ _ => True) fun _ _ => True := by
  constructor
  all_goals intros
  all_goals simp only [and_self]

/-- Soundness alone, with nothing kept besides. -/
theorem Reach.sound {s : Session α β ω σ ε π}
    (hs : Reach crew handle items workers limit world s) :
    s.queue.Sound items workers.length fun _ _ => True := by
  exact (hs.invariant (keeps_nothing crew handle items) trivial).queue

/-- A session that waits has dispatched what could be dispatched. -/
theorem Reach.exhausted {s : Session α β ω σ ε π}
    (hs : Reach crew handle items workers limit world s) (hwait : s.flushing = false) :
    s.queue.failure = none → s.queue.Exhausted := fun hfailure =>
  ((hs.invariant (keeps_nothing crew handle items) trivial).waits hwait hfailure).2

/-- A session that has joined an end delivers what can be delivered. -/
theorem deliver_steps {s : Session α β ω σ ε π}
    (hs : Reach crew handle items workers limit world s) (hflush : s.flushing = true) :
    ∃ s', Steps crew handle s s' ∧ s'.queue = State.deliver handle s.queue s.queue.slots ∧
      s'.queue.next? = none ∧ s'.flushing = true ∧ s'.progress = s.progress ∧
      s'.queue.running = s.queue.running ∧ s'.queue.pending = s.queue.pending := by
  generalize hlength : s.queue.slots.length = length
  induction length using Nat.strongRecOn generalizing s with
  | ind length ih =>
    cases hnext : s.queue.next? with
    | none =>
      refine ⟨s, .refl, ?_, hnext, hflush, rfl, rfl, rfl⟩
      exact (State.deliver_eq_self hnext hs.sound.failed).symm
    | some result =>
      obtain ⟨item, output⟩ := result
      have hstep : Step crew handle s _ := .deliver hflush hnext
      obtain ⟨hfailure, slots, hslots⟩ := State.next?_eq_some_iff.1 hnext
      have hshort : (s.queue.deliverNext handle item output).slots.length < length := by
        rw [← hlength, hslots]
        unfold State.deliverNext State.fail
        dsimp only
        split
        · simp [hslots]
        · simp
      obtain ⟨s', hsteps, hqueue, hnext', hflush', hprogress, hrunning, hpending⟩ :=
        ih _ hshort (hs.step hstep) hflush rfl
      refine ⟨s', .head hstep hsteps, ?_, hnext', hflush', hprogress, ?_, ?_⟩
      · rw [hqueue, State.deliver_eq_of_next? hnext]
      · rw [hrunning, State.deliverNext_running]
      · rw [hpending, State.deliverNext_pending]

end Session

namespace Run

def tasks (r : Run α β ω σ ε) : List (Nat × Labor β ω σ) :=
  r.unstarted.map (fun task => (task.1.index, .fresh task.2)) ++
    r.sleeping.map (fun sleeper => (sleeper.item.index, .asleep sleeper.deadline sleeper.resume)) ++
    r.ready.map fun event => (event.index, .ended event.outcome)

structure Mirrors (r : Run α β ω σ ε) (s : Session α β ω (Timed σ) ε (Labor β ω σ)) : Prop where
  queue : s.queue = r.queue
  indices : (r.tasks.map Prod.fst).Perm (r.queue.running.map WorkItem.index)
  progress : ∀ task ∈ r.tasks, s.progress task.1 = task.2
  unstarted : ∀ task ∈ r.unstarted, task.1 ∈ r.queue.running
  sleeping : ∀ sleeper ∈ r.sleeping, sleeper.item ∈ r.queue.running

/-- What is left to do for the items that run: each begins, wakes and is received. -/
def effort (r : Run α β ω σ ε) : Nat :=
  3 * r.unstarted.length + 2 * r.sleeping.length + r.ready.length

variable {actors : Actors α β ω σ ε} {items : List α} {workers : List ω} {limit : Nat}
  {world : Timed σ} {r r' : Run α β ω σ ε} {s : Session α β ω (Timed σ) ε (Labor β ω σ)}

theorem Mirrors.distinct (h : r.Mirrors s)
    (hs : s.Reach actors.crew (handler actors) items workers limit world) :
    (r.tasks.map Prod.fst).Nodup := by
  have hdistinct := hs.sound.distinct
  rw [h.queue] at hdistinct
  exact h.indices.nodup_iff.2 hdistinct

/-- What the clock does to one item is a move of its task. -/
theorem Mirrors.advance (h : r.Mirrors s)
    (hs : s.Reach actors.crew (handler actors) items workers limit world) {item : WorkItem α}
    (hitem : item ∈ r.queue.running) {labor labor' : Labor β ω σ} {world' : Timed σ}
    {rest : List (Nat × Labor β ω σ)} (hbefore : r.tasks.Perm ((item.index, labor) :: rest))
    (hadvance : actors.advance item r.queue.world labor = (world', labor'))
    (hafter : r'.tasks.Perm ((item.index, labor') :: rest))
    (hqueue : r'.queue = { r.queue with world := world' })
    (hunstarted : ∀ task ∈ r'.unstarted, task ∈ r.unstarted)
    (hsleeping : ∀ sleeper ∈ r'.sleeping, sleeper ∈ r.sleeping ∨ sleeper.item = item) :
    ∃ s', Session.Step actors.crew (handler actors) s s' ∧ r'.Mirrors s' ∧
      s'.flushing = s.flushing := by
  have hdistinct := h.distinct hs
  rw [(hbefore.map Prod.fst).nodup_iff, List.map_cons, List.nodup_cons] at hdistinct
  have hlabor : s.progress item.index = labor :=
    h.progress _ (hbefore.mem_iff.2 List.mem_cons_self)
  have hmove : actors.crew.moves item s.queue.world (s.progress item.index) world' labor' := by
    rw [hlabor, h.queue]
    exact hadvance
  refine ⟨_, .move (h.queue ▸ hitem) hmove, ⟨?_, ?_, ?_, ?_, ?_⟩, rfl⟩
  · rw [hqueue, h.queue]
  · rw [hqueue]
    exact ((hafter.map Prod.fst).trans (hbefore.map Prod.fst).symm).trans h.indices
  · intro task htask
    rcases List.mem_cons.1 (hafter.mem_iff.1 htask) with rfl | hrest
    · simp
    · have hne : task.1 ≠ item.index := by
        intro heq
        have hmem : task.1 ∈ rest.map Prod.fst := List.mem_map_of_mem hrest
        rw [heq] at hmem
        exact hdistinct.1 hmem
      change Function.update s.progress item.index labor' task.1 = task.2
      rw [Function.update_of_ne hne]
      exact h.progress task (hbefore.mem_iff.2 (List.mem_cons_of_mem _ hrest))
  · intro task htask
    rw [hqueue]
    exact h.unstarted task (hunstarted task htask)
  · intro sleeper hsleeper
    rw [hqueue]
    rcases hsleeping sleeper hsleeper with hold | rfl
    · exact h.sleeping sleeper hold
    · exact hitem

/-- The session that mirrors a run moves on, and mirrors what the clock makes of
the run. Of the queue only the world has changed. -/
def Follows (actors : Actors α β ω σ ε) (s : Session α β ω (Timed σ) ε (Labor β ω σ))
    (r r' : Run α β ω σ ε) : Prop :=
  (∃ world, r'.queue = { r.queue with world }) ∧
    ∃ s', Session.Steps actors.crew (handler actors) s s' ∧ r'.Mirrors s' ∧
      s'.flushing = s.flushing

theorem Follows.refl (h : r.Mirrors s) : Follows actors s r r :=
  ⟨⟨r.queue.world, rfl⟩, s, .refl, h, rfl⟩

theorem conclude_eq (actors : Actors α β ω σ ε) (r : Run α β ω σ ε) (time : Nat)
    (item : WorkItem α) (outcome : Outcome β ω) : r.conclude actors time item outcome =
      { r with
        queue :=
          { r.queue with world := ⟨r.now, actors.finish time r.queue.world.state item outcome⟩ }
        ready := r.ready ++ [outcome.event item.index time] } := by
  cases outcome with
  | completed worker output => rfl
  | lost => rfl

theorem event_index (outcome : Outcome β ω) (index endedAt : Nat) :
    (outcome.event index endedAt).index = index := by
  cases outcome with
  | completed worker output => rfl
  | lost => rfl

theorem event_outcome (outcome : Outcome β ω) (index endedAt : Nat) :
    (outcome.event index endedAt).outcome = outcome := by
  cases outcome with
  | completed worker output => rfl
  | lost => rfl

def startOne (actors : Actors α β ω σ ε) (r : Run α β ω σ ε) (task : WorkItem α × ω) :
    Run α β ω σ ε :=
  let (state, activity) := actors.work task.1.startedAt r.queue.world.state task.1 task.2
  let r := r.setWorld r.now state
  match activity with
  | .ended outcome => r.conclude actors task.1.startedAt task.1 outcome
  | .waiting duration resume =>
    { r with sleeping := r.sleeping ++ [⟨task.1.startedAt + duration, task.1, resume⟩] }

theorem startAll_eq (actors : Actors α β ω σ ε) (r : Run α β ω σ ε) :
    r.startAll actors = r.unstarted.foldl (startOne actors) { r with unstarted := [] } := rfl

/-- Starting an item moves it on: it ended, or it sleeps. -/
theorem startOne_spec (actors : Actors α β ω σ ε) (r : Run α β ω σ ε) (task : WorkItem α × ω)
    (unstarted : List (WorkItem α × ω)) : ∃ world labor,
      actors.advance task.1 r.queue.world (.fresh task.2) = (world, labor) ∧
      (startOne actors r task).queue = { r.queue with world } ∧
      (startOne actors r task).unstarted = r.unstarted ∧
      (tasks { startOne actors r task with unstarted }).Perm
        ((task.1.index, labor) :: tasks { r with unstarted }) ∧
      (∀ sleeper ∈ (startOne actors r task).sleeping,
        sleeper ∈ r.sleeping ∨ sleeper.item = task.1) ∧
      (startOne actors r task).effort ≤ r.effort + 2 := by
  obtain ⟨state, activity, hwork⟩ : ∃ state activity,
      actors.work task.1.startedAt r.queue.world.state task.1 task.2 = (state, activity) :=
    ⟨_, _, rfl⟩
  cases activity with
  | ended outcome =>
    have hstart : startOne actors r task =
        (r.setWorld r.now state).conclude actors task.1.startedAt task.1 outcome := by
      simp only [startOne, hwork]
    have hadvance : actors.advance task.1 r.queue.world (.fresh task.2) =
        (⟨r.now, actors.finish task.1.startedAt state task.1 outcome⟩, .ended outcome) := by
      simp only [Actors.advance, hwork]
      rfl
    rw [conclude_eq] at hstart
    rw [hstart]
    refine ⟨_, _, hadvance, rfl, rfl, ?_, fun sleeper h => .inl h, ?_⟩
    · simp only [setWorld, tasks, List.map_append, List.map_cons, List.map_nil, event_index,
        event_outcome, ← List.append_assoc]
      exact List.perm_append_singleton _ _
    · simp only [setWorld, effort, List.length_append, List.length_singleton]
      omega
  | waiting duration resume =>
    have hstart : startOne actors r task =
        { r.setWorld r.now state with
          sleeping := r.sleeping ++ [⟨task.1.startedAt + duration, task.1, resume⟩] } := by
      simp only [startOne, hwork]
      rfl
    have hadvance : actors.advance task.1 r.queue.world (.fresh task.2) =
        (⟨r.now, state⟩, .asleep (task.1.startedAt + duration) resume) := by
      simp only [Actors.advance, hwork]
      rfl
    rw [hstart]
    refine ⟨_, _, hadvance, rfl, rfl, ?_, ?_, ?_⟩
    · simp only [setWorld, tasks, List.map_append, List.map_cons, List.map_nil,
        ← List.append_assoc]
      exact (List.perm_append_singleton _ _).append_right _
    · intro sleeper h
      rcases List.mem_append.1 h with hold | hnew
      · exact .inl hold
      · exact .inr (List.mem_singleton.1 hnew ▸ rfl)
    · simp only [setWorld, effort, List.length_append, List.length_singleton]
      omega

/-- Starting the items one after the other, those to come still unstarted. -/
theorem start_follows (unstarted : List (WorkItem α × ω)) (hnone : r.unstarted = [])
    (hs : s.Reach actors.crew (handler actors) items workers limit world)
    (h : Mirrors { r with unstarted } s) :
    Follows actors s { r with unstarted } (unstarted.foldl (startOne actors) r) ∧
      (unstarted.foldl (startOne actors) r).effort ≤ r.effort + 2 * unstarted.length := by
  induction unstarted generalizing r s with
  | nil =>
    have hr : { r with unstarted := [] } = r := by rw [← hnone]
    rw [hr] at h ⊢
    exact ⟨.refl h, Nat.le_refl _⟩
  | cons task rest ih =>
    obtain ⟨world', labor, hadvance, hqueue, hunstarted, hperm, hsleeping, heffort⟩ :=
      startOne_spec actors r task rest
    have hitem : task.1 ∈ r.queue.running := h.unstarted task List.mem_cons_self
    obtain ⟨s₁, hstep, h₁, hflush₁⟩ := h.advance hs hitem (.refl _) hadvance hperm hqueue
      (fun _ hmem => List.mem_cons_of_mem _ hmem) hsleeping
    obtain ⟨⟨⟨world₂, hqueue₂⟩, s₂, hsteps, h₂, hflush₂⟩, heffort₂⟩ :=
      ih (hunstarted.trans hnone) (hs.step hstep) h₁
    refine ⟨⟨⟨world₂, ?_⟩, s₂, .head hstep hsteps, h₂, hflush₂.trans hflush₁⟩, ?_⟩
    · rw [List.foldl_cons, hqueue₂, hqueue]
    · rw [List.foldl_cons, List.length_cons]
      omega

theorem startAll_follows (hs : s.Reach actors.crew (handler actors) items workers limit world)
    (h : r.Mirrors s) : Follows actors s r (r.startAll actors) ∧
      (r.startAll actors).effort + r.unstarted.length ≤ r.effort := by
  obtain ⟨hfollows, heffort⟩ := start_follows (r := { r with unstarted := [] }) r.unstarted rfl hs h
  refine ⟨hfollows, ?_⟩
  rw [startAll_eq]
  simp only [effort, List.length_nil] at heffort ⊢
  omega

theorem earliest?_perm {sleeping others : List (Sleeper α β ω σ)} {sleeper : Sleeper α β ω σ}
    (h : earliest? sleeping = some (sleeper, others)) : sleeping.Perm (sleeper :: others) := by
  induction sleeping generalizing sleeper others with
  | nil => cases h
  | cons first rest ih =>
    rw [earliest?] at h
    split at h
    · rename_i hnone
      obtain ⟨rfl, rfl⟩ := Prod.mk.inj (Option.some.inj h)
      cases rest with
      | nil => exact .refl _
      | cons second rest =>
        rw [earliest?] at hnone
        split at hnone
        · cases hnone
        · split at hnone
          · cases hnone
          · cases hnone
    · rename_i t others' hsome
      split at h
      · obtain ⟨rfl, rfl⟩ := Prod.mk.inj (Option.some.inj h)
        exact ((ih hsome).cons first).trans (.swap t first others')
      · obtain ⟨rfl, rfl⟩ := Prod.mk.inj (Option.some.inj h)
        exact .refl _

theorem eq_nil_of_earliest? {sleeping : List (Sleeper α β ω σ)} (h : earliest? sleeping = none) :
    sleeping = [] := by
  cases sleeping with
  | nil => rfl
  | cons first rest =>
    rw [earliest?] at h
    split at h
    · cases h
    · split at h
      · cases h
      · cases h

def wakeOne (actors : Actors α β ω σ ε) (r : Run α β ω σ ε) (sleeper : Sleeper α β ω σ)
    (others : List (Sleeper α β ω σ)) : Run α β ω σ ε :=
  let (state, outcome) := sleeper.resume r.queue.world.state
  let r := { r.setWorld r.now state with sleeping := others }
  r.conclude actors sleeper.deadline sleeper.item outcome

/-- An item that wakes ends. -/
theorem wakeOne_follows (hs : s.Reach actors.crew (handler actors) items workers limit world)
    (h : r.Mirrors s) {sleeper : Sleeper α β ω σ} {others : List (Sleeper α β ω σ)}
    (hperm : r.sleeping.Perm (sleeper :: others)) :
    Follows actors s r (r.wakeOne actors sleeper others) ∧
      (r.wakeOne actors sleeper others).effort + 1 = r.effort := by
  obtain ⟨state, outcome, hresume⟩ :
      ∃ state outcome, sleeper.resume r.queue.world.state = (state, outcome) := ⟨_, _, rfl⟩
  have hwake : r.wakeOne actors sleeper others =
      conclude actors { r.setWorld r.now state with sleeping := others } sleeper.deadline
        sleeper.item outcome := by
    simp only [wakeOne, hresume]
  have hadvance : actors.advance sleeper.item r.queue.world
        (.asleep sleeper.deadline sleeper.resume) =
      (⟨r.now, actors.finish sleeper.deadline state sleeper.item outcome⟩, .ended outcome) := by
    simp only [Actors.advance, hresume]
    rfl
  have hitem := h.sleeping sleeper (hperm.mem_iff.2 List.mem_cons_self)
  have hbefore : r.tasks.Perm ((sleeper.item.index, .asleep sleeper.deadline sleeper.resume) ::
      tasks { r with sleeping := others }) := by
    refine (((hperm.map _).append_left _).append_right _).trans ?_
    rw [List.map_cons]
    exact (List.perm_middle.append_right _)
  rw [conclude_eq] at hwake
  have hafter : (r.wakeOne actors sleeper others).tasks.Perm
      ((sleeper.item.index, .ended outcome) :: tasks { r with sleeping := others }) := by
    rw [hwake]
    simp only [tasks, List.map_append, List.map_cons, List.map_nil, event_index, event_outcome,
      ← List.append_assoc]
    exact List.perm_append_singleton _ _
  constructor
  · have hqueue : (r.wakeOne actors sleeper others).queue =
        { r.queue with
          world := ⟨r.now, actors.finish sleeper.deadline state sleeper.item outcome⟩ } := by
      rw [hwake]
      rfl
    obtain ⟨s', hstep, h', hflush⟩ := h.advance hs hitem hbefore hadvance hafter hqueue
      (by rw [hwake]; exact fun _ h => h)
      (by rw [hwake]; exact fun t ht => .inl (hperm.mem_iff.2 (List.mem_cons_of_mem _ ht)))
    exact ⟨⟨_, hqueue⟩, s', .single hstep, h', hflush⟩
  · have hlength := hperm.length_eq
    rw [hwake]
    simp only [setWorld, effort, List.length_append, List.length_cons, List.length_nil]
      at hlength ⊢
    omega

theorem Follows.trans {r'' : Run α β ω σ ε} (h : Follows actors s r r')
    (h' : ∀ s', Session.Steps actors.crew (handler actors) s s' → r'.Mirrors s' →
      Follows actors s' r' r'') : Follows actors s r r'' := by
  obtain ⟨⟨world, hqueue⟩, s', hsteps, hm, hflush⟩ := h
  obtain ⟨⟨world', hqueue'⟩, s'', hsteps', hm', hflush'⟩ := h' s' hsteps hm
  refine ⟨⟨world', ?_⟩, s'', hsteps.trans hsteps', hm', hflush'.trans hflush⟩
  rw [hqueue', hqueue]

theorem wakeUntil_succ {sleeper : Sleeper α β ω σ} {others : List (Sleeper α β ω σ)}
    (hearliest : earliest? r.sleeping = some (sleeper, others)) {time : Nat}
    (hdeadline : sleeper.deadline ≤ time) (fuel : Nat) :
    r.wakeUntil actors time (fuel + 1) =
      (r.wakeOne actors sleeper others).wakeUntil actors time fuel := by
  rw [wakeUntil, hearliest]
  exact if_pos hdeadline

/-- One sleeper wakes, and then whoever is next. -/
theorem wakeUntil_succ_follows
    (hs : s.Reach actors.crew (handler actors) items workers limit world)
    {sleeper : Sleeper α β ω σ} {others : List (Sleeper α β ω σ)}
    (hearliest : earliest? r.sleeping = some (sleeper, others)) {time : Nat}
    (hdeadline : sleeper.deadline ≤ time) (fuel : Nat) (h : r.Mirrors s)
    (hrest : ∀ s', Session.Steps actors.crew (handler actors) s s' →
      (r.wakeOne actors sleeper others).Mirrors s' →
      Follows actors s' (r.wakeOne actors sleeper others)
          ((r.wakeOne actors sleeper others).wakeUntil actors time fuel) ∧
        ((r.wakeOne actors sleeper others).wakeUntil actors time fuel).effort ≤
          (r.wakeOne actors sleeper others).effort) :
    Follows actors s r (r.wakeUntil actors time (fuel + 1)) ∧
      (r.wakeUntil actors time (fuel + 1)).effort < r.effort := by
  obtain ⟨hfollows, heffort⟩ := wakeOne_follows hs h (earliest?_perm hearliest)
  rw [wakeUntil_succ hearliest hdeadline]
  refine ⟨hfollows.trans fun s' hsteps h' => (hrest s' hsteps h').1, ?_⟩
  obtain ⟨-, s', hsteps, h', -⟩ := hfollows
  have := (hrest s' hsteps h').2
  omega

/-- Waking goes on as long as a deadline has passed. -/
theorem wakeUntil_follows (time fuel : Nat)
    (hs : s.Reach actors.crew (handler actors) items workers limit world) (h : r.Mirrors s) :
    Follows actors s r (r.wakeUntil actors time fuel) ∧
      (r.wakeUntil actors time fuel).effort ≤ r.effort := by
  induction fuel generalizing r s with
  | zero => exact ⟨.refl h, Nat.le_refl _⟩
  | succ fuel ih =>
    cases hearliest : earliest? r.sleeping with
    | none =>
      rw [wakeUntil, hearliest]
      exact ⟨.refl h, Nat.le_refl _⟩
    | some next =>
      obtain ⟨sleeper, others⟩ := next
      by_cases hdeadline : sleeper.deadline ≤ time
      · obtain ⟨hfollows, hless⟩ := wakeUntil_succ_follows hs hearliest hdeadline fuel h
          fun s' hsteps => ih (hs.steps hsteps)
        exact ⟨hfollows, Nat.le_of_lt hless⟩
      · rw [wakeUntil, hearliest]
        dsimp only
        rw [if_neg hdeadline]
        exact ⟨.refl h, Nat.le_refl _⟩

theorem startAll_unstarted (actors : Actors α β ω σ ε) (r : Run α β ω σ ε) :
    (r.startAll actors).unstarted = [] := by
  have hfold (tasks : List (WorkItem α × ω)) (r : Run α β ω σ ε) :
      (tasks.foldl (startOne actors) r).unstarted = r.unstarted := by
    induction tasks generalizing r with
    | nil => rfl
    | cons task rest ih =>
      obtain ⟨_, _, -, -, hunstarted, -⟩ := startOne_spec actors r task []
      rw [List.foldl_cons, ih, hunstarted]
  rw [startAll_eq, hfold]

/-- Time passes. -/
theorem setWorld_follows (h : r.Mirrors s) (now : Nat) :
    Follows actors s r (r.setWorld now r.queue.world.state) := by
  have hstir : actors.crew.stirs s.queue.world ⟨now, r.queue.world.state⟩ := by
    rw [h.queue]
    rfl
  refine ⟨⟨_, rfl⟩, _, .single (.stir hstir),
    ⟨?_, h.indices, h.progress, h.unstarted, h.sleeping⟩, rfl⟩
  rw [h.queue]
  rfl

/-- Where nothing has ended but something runs, something begins or wakes. -/
theorem idleStep_follows (hs : s.Reach actors.crew (handler actors) items workers limit world)
    (h : r.Mirrors s) (hready : r.ready = []) (hrunning : r.queue.running ≠ []) :
    Follows actors s r (r.idleStep actors) ∧ (r.idleStep actors).effort < r.effort := by
  obtain ⟨hstart, heffort⟩ := startAll_follows hs h
  by_cases hended : (r.startAll actors).ready = []
  · cases hearliest : earliest? (r.startAll actors).sleeping with
    | none =>
      obtain ⟨⟨world', hqueue⟩, s', -, h', -⟩ := hstart
      have hindices := h'.indices
      simp only [tasks, startAll_unstarted, eq_nil_of_earliest? hearliest, hended, hqueue,
        List.map_nil, List.append_nil, List.nil_perm, List.map_eq_nil_iff] at hindices
      exact absurd hindices hrunning
    | some next =>
      obtain ⟨sleeper, others⟩ := next
      have hidle : r.idleStep actors =
          ((r.startAll actors).setWorld sleeper.deadline
            (r.startAll actors).queue.world.state).wakeUntil actors sleeper.deadline
            (r.startAll actors).sleeping.length := by
        simp only [idleStep, hended, List.isEmpty_nil, if_true, hearliest]
        rfl
      have hlength := (earliest?_perm hearliest).length_eq
      rw [List.length_cons] at hlength
      rw [hidle, hlength]
      have hwake (s' : Session α β ω (Timed σ) ε (Labor β ω σ))
          (hsteps : Session.Steps actors.crew (handler actors) s s') :=
        fun h' => wakeUntil_succ_follows (r := (r.startAll actors).setWorld sleeper.deadline
          (r.startAll actors).queue.world.state) (hs.steps hsteps) hearliest (Nat.le_refl _)
          others.length h' fun s'' hsteps' =>
            wakeUntil_follows sleeper.deadline others.length ((hs.steps hsteps).steps hsteps')
      have hpass := hstart.trans fun s' _ h' => setWorld_follows h' sleeper.deadline
      refine ⟨hpass.trans fun s' hsteps h' => (hwake s' hsteps h').1, ?_⟩
      obtain ⟨-, s', hsteps, h', -⟩ := hpass
      have hless := (hwake s' hsteps h').2
      have hsame : ((r.startAll actors).setWorld sleeper.deadline
          (r.startAll actors).queue.world.state).effort = (r.startAll actors).effort := rfl
      omega
  · have hidle : r.idleStep actors = r.startAll actors := by
      simp [idleStep, hended]
    rw [hidle]
    refine ⟨hstart, ?_⟩
    have hunstarted : r.unstarted ≠ [] := by
      intro hnil
      apply hended
      rw [startAll_eq, hnil]
      exact hready
    have := List.length_pos_iff.2 hunstarted
    omega

/-- The queue receives the first end: the session joins it and delivers. -/
theorem receive_steps (hs : s.Reach actors.crew (handler actors) items workers limit world)
    (h : r.Mirrors s) (hwait : s.flushing = false) {event : Event β ω} {later : List (Event β ω)}
    (hready : r.ready = event :: later) :
    ∃ s', Session.Steps actors.crew (handler actors) s s' ∧
      Mirrors { r with queue := r.queue.receive (handler actors) event, ready := later } s' ∧
      s'.flushing = true ∧ s'.queue.next? = none ∧ s'.queue.pending = r.queue.pending := by
  have hperm : r.tasks.Perm
      ((event.index, .ended event.outcome) :: tasks { r with ready := later }) := by
    simp only [tasks, hready, List.map_cons]
    exact List.perm_middle
  have hdistinct := h.distinct hs
  rw [(hperm.map Prod.fst).nodup_iff, List.map_cons, List.nodup_cons] at hdistinct
  have htask := hperm.mem_iff.2 List.mem_cons_self
  have hlabor := h.progress _ htask
  obtain ⟨item, hitem, hindex⟩ := List.mem_map.1 (h.indices.mem_iff.1 (List.mem_map_of_mem htask))
  obtain ⟨endedAt, hevent⟩ := event.exists_eq
  have hrunning : item ∈ s.queue.running := by
    rw [h.queue]
    exact hitem
  have hend : actors.crew.ends item (s.progress item.index) event.outcome := by
    rw [hindex]
    exact hlabor
  have hjoin : Session.Step actors.crew (handler actors) s _ := .join endedAt hwait hrunning hend
  obtain ⟨s', hsteps, hqueue, hnext, hflush, hprogress, hrest, hpending⟩ :=
    Session.deliver_steps (hs.step hjoin) rfl
  dsimp only at hqueue hprogress hrest hpending
  rw [← State.receive_eq (hs.sound.running?_eq hrunning) hs.sound.failed, hindex, ← hevent,
    h.queue] at hqueue
  rw [hs.sound.accept_running hrunning, h.queue] at hrest
  rw [State.accept_pending, h.queue] at hpending
  have hstays (other : WorkItem α) (hother : other ∈ r.queue.running) (labor : Labor β ω σ)
      (htask : (other.index, labor) ∈ tasks { r with ready := later }) :
      other ∈ (r.queue.receive (handler actors) event).running := by
    rw [← hqueue, hrest]
    refine List.mem_filter.2 ⟨hother, ?_⟩
    have hne : other.index ≠ item.index := by
      intro heq
      have hmem := List.mem_map_of_mem (f := Prod.fst) htask
      dsimp only at hmem
      rw [heq, hindex] at hmem
      exact hdistinct.1 hmem
    simpa using hne
  refine ⟨s', .head hjoin hsteps, ⟨hqueue, ?_, ?_, ?_, ?_⟩, hflush, hnext, hpending⟩
  · rw [← hqueue, hrest]
    have hothers := ((hperm.map Prod.fst).symm.trans h.indices).filter (· ≠ item.index)
    rw [List.map_cons, List.filter_cons_of_neg (by simp [hindex]), List.filter_eq_self.2,
      List.filter_map] at hothers
    · exact hothers
    · intro index hmem
      have hne : index ≠ item.index := by
        rintro rfl
        exact hdistinct.1 (hindex ▸ hmem)
      simpa using hne
  · intro task htask
    rw [hprogress]
    exact h.progress task (hperm.mem_iff.2 (List.mem_cons_of_mem _ htask))
  · intro task htask
    refine hstays task.1 (h.unstarted task htask) (.fresh task.2) ?_
    simp only [tasks, List.mem_append, List.mem_map]
    exact .inl (.inl ⟨task, htask, rfl⟩)
  · intro sleeper hsleeper
    refine hstays sleeper.item (h.sleeping sleeper hsleeper)
      (.asleep sleeper.deadline sleeper.resume) ?_
    simp only [tasks, List.mem_append, List.mem_map]
    exact .inl (.inr ⟨sleeper, hsleeper, rfl⟩)

def dispatched (r : Run α β ω σ ε) : Run α β ω σ ε :=
  { r with
    queue := (r.queue.dispatch r.now).1
    unstarted := r.unstarted ++ (r.queue.dispatch r.now).2 }

theorem Mirrors.dispatch {staff : Nat} (hs : s.queue.Sound items staff fun _ _ => True)
    (h : r.Mirrors s) : r.dispatched.Mirrors (s.dispatch actors.crew r.now) := by
  have hrunning := r.queue.dispatch_running r.now
  have hperm : r.dispatched.tasks.Perm (r.tasks ++
      (r.queue.dispatch r.now).2.map fun task => (task.1.index, .fresh task.2)) := by
    simp only [tasks, dispatched, List.map_append, List.append_assoc]
    refine List.Perm.append_left _ ?_
    rw [← List.append_assoc (List.map _ r.sleeping)]
    exact List.perm_append_comm
  refine ⟨?_, ?_, ?_, ?_, ?_⟩
  · simp only [Session.dispatch, dispatched, h.queue]
  · refine (hperm.map Prod.fst).trans ?_
    change List.Perm _ ((r.queue.dispatch r.now).1.running.map WorkItem.index)
    rw [hrunning, List.map_append, List.map_append, List.map_map, List.map_map]
    exact h.indices.append_right _
  · intro task htask
    rcases List.mem_append.1 (hperm.mem_iff.1 htask) with hold | hnew
    · have hindex := h.indices.mem_iff.1 (List.mem_map_of_mem hold)
      obtain ⟨item, hitem, hindex⟩ := List.mem_map.1 hindex
      rw [← h.queue] at hitem
      have hsame : (s.dispatch actors.crew r.now).progress item.index = s.progress item.index :=
        Session.dispatch_progress_of_running hs r.now hitem
      rw [← hindex, hsame, hindex]
      exact h.progress task hold
    · obtain ⟨⟨item, worker⟩, hstarted, rfl⟩ := List.mem_map.1 hnew
      rw [← h.queue] at hstarted
      exact Session.dispatch_progress_of_started hs r.now hstarted
  · intro task htask
    change task.1 ∈ (r.queue.dispatch r.now).1.running
    rw [hrunning]
    rcases List.mem_append.1 htask with hold | hnew
    · exact List.mem_append_left _ (h.unstarted task hold)
    · exact List.mem_append_right _ (List.mem_map_of_mem hnew)
  · intro sleeper hsleeper
    change sleeper.item ∈ (r.queue.dispatch r.now).1.running
    rw [hrunning]
    exact List.mem_append_left _ (h.sleeping sleeper hsleeper)

/-- While a session waits, there is nothing to dispatch. -/
theorem Mirrors.dispatched_eq (hs : s.Reach actors.crew (handler actors) items workers limit world)
    (h : r.Mirrors s) (hwait : s.flushing = false) : r.dispatched = r := by
  have hstuck := hs.exhausted hwait
  rw [h.queue] at hstuck
  unfold dispatched
  rw [State.dispatch_of_exhausted hstuck, List.append_nil]

def remaining (r : Run α β ω σ ε) : Nat := 3 * r.queue.pending.length + r.effort

theorem remaining_dispatched (r : Run α β ω σ ε) : r.dispatched.remaining = r.remaining := by
  have hlength := r.queue.length_dispatch r.now
  simp only [remaining, effort, dispatched, List.length_append]
  omega

/-- Receiving an end leaves less to do. -/
theorem receiveStep_steps (hs : s.Reach actors.crew (handler actors) items workers limit world)
    (h : r.Mirrors s) (hwait : s.flushing = false) {event : Event β ω} {later : List (Event β ω)}
    (hready : r.ready = event :: later) :
    ∃ s', Session.Steps actors.crew (handler actors) s s' ∧
      (r.receiveStep actors event later).Mirrors s' ∧ s'.flushing = true ∧
      s'.queue.next? = none ∧ (r.receiveStep actors event later).remaining < r.remaining := by
  obtain ⟨s₁, hsteps₁, h₁, hflush₁, hnext₁, hpending₁⟩ := receive_steps hs h hwait hready
  rw [h₁.queue] at hpending₁
  generalize hreceived : ({ r with
    queue := r.queue.receive (handler actors) event, ready := later } : Run α β ω σ ε) = r₁
    at h₁ hpending₁
  have hless : r₁.remaining < r.remaining := by
    rw [← hreceived] at hpending₁ ⊢
    dsimp only at hpending₁
    simp only [remaining, effort, hready, hpending₁, List.length_cons]
    omega
  have hstep : r.receiveStep actors event later = if r.now < r₁.now then
      (r₁.startAll actors).wakeUntil actors (r₁.startAll actors).now
        (r₁.startAll actors).sleeping.length else r₁ := by
    rw [← hreceived]
    rfl
  rw [hstep]
  by_cases hpassed : r.now < r₁.now
  · rw [if_pos hpassed]
    have hs₁ := hs.steps hsteps₁
    obtain ⟨hstart, heffort⟩ := startAll_follows hs₁ h₁
    have hwake (s' : Session α β ω (Timed σ) ε (Labor β ω σ))
        (hsteps : Session.Steps actors.crew (handler actors) s₁ s')
        (h' : (r₁.startAll actors).Mirrors s') :=
      wakeUntil_follows (r₁.startAll actors).now (r₁.startAll actors).sleeping.length
        (hs₁.steps hsteps) h'
    obtain ⟨⟨world', hqueue⟩, s₂, hsteps₂, h₂, hflush₂⟩ :=
      hstart.trans fun s' hsteps h' => (hwake s' hsteps h').1
    obtain ⟨-, s', hsteps', h', -⟩ := hstart
    have heffort' := (hwake s' hsteps' h').2
    refine ⟨s₂, hsteps₁.trans hsteps₂, h₂, hflush₂.trans hflush₁, ?_, ?_⟩
    · rw [h₂.queue, hqueue, ← h₁.queue]
      exact hnext₁
    · simp only [remaining] at hless ⊢
      rw [hqueue]
      dsimp only
      omega
  · rw [if_neg hpassed]
    exact ⟨s₁, hsteps₁, h₁, hflush₁, hnext₁, hless⟩

theorem loop_succ (actors : Actors α β ω σ ε) (r : Run α β ω σ ε) (fuel : Nat) :
    r.loop actors (fuel + 1) =
      if r.queue.overflows then r
      else if r.dispatched.queue.isSettled then r.dispatched
      else
        match r.dispatched.ready with
        | event :: later => (r.dispatched.receiveStep actors event later).loop actors fuel
        | [] => (r.dispatched.idleStep actors).loop actors fuel := rfl

/-- A session dispatches with the run. One that waits has done so before. -/
theorem exists_dispatched (hs : s.Reach actors.crew (handler actors) items workers limit world)
    (h : r.Mirrors s) (hfits : r.queue.overflows = false)
    (hturn : s.flushing = true → s.queue.next? = none) :
    ∃ s', s'.Reach actors.crew (handler actors) items workers limit world ∧
      r.dispatched.Mirrors s' ∧ s'.flushing = false := by
  cases hflush : s.flushing with
  | false => exact ⟨s, hs, (h.dispatched_eq hs hflush).symm ▸ h, hflush⟩
  | true =>
    rw [← h.queue] at hfits
    exact ⟨_, hs.step (.resume r.now hflush (hturn hflush) hfits), h.dispatch hs.sound, rfl⟩

/-- The loop comes to its end, and a session comes there with it. -/
theorem loop_ends (fuel : Nat) (hs : s.Reach actors.crew (handler actors) items workers limit world)
    (h : r.Mirrors s) (hturn : s.flushing = true → s.queue.next? = none)
    (hfuel : r.remaining < fuel) :
    ∃ s', s'.Reach actors.crew (handler actors) items workers limit world ∧
      (r.loop actors fuel).Mirrors s' ∧ (s'.Returned ∨ s'.Overflowed) := by
  induction fuel generalizing r s with
  | zero => omega
  | succ fuel ih =>
    rw [loop_succ]
    by_cases hoverflows : r.queue.overflows = true
    · rw [if_pos hoverflows]
      rw [← h.queue] at hoverflows
      cases hflush : s.flushing with
      | false => cases hoverflows.symm.trans (hs.fits hflush)
      | true => exact ⟨s, hs, h, .inr ⟨hflush, hturn hflush, hoverflows⟩⟩
    · rw [if_neg hoverflows]
      obtain ⟨s₁, hs₁, h₁, hwait⟩ := exists_dispatched hs h (eq_false_of_ne_true hoverflows) hturn
      rw [← remaining_dispatched] at hfuel
      generalize r.dispatched = r₁ at h₁ hfuel
      by_cases hsettled : r₁.queue.isSettled = true
      · rw [if_pos hsettled]
        rw [← h₁.queue] at hsettled
        exact ⟨s₁, hs₁, h₁, .inl ⟨hwait, hsettled⟩⟩
      · rw [if_neg hsettled]
        split
        · rename_i event later hready
          obtain ⟨s', hsteps, h', -, hnext, hless⟩ := receiveStep_steps hs₁ h₁ hwait hready
          exact ih (hs₁.steps hsteps) h' (fun _ => hnext) (by omega)
        · rename_i hready
          have hrunning : r₁.queue.running ≠ [] := fun hnil => hsettled (List.isEmpty_iff.2 hnil)
          obtain ⟨⟨⟨world', hqueue⟩, s', hsteps, h', hflush⟩, hless⟩ :=
            idleStep_follows hs₁ h₁ hready hrunning
          have hwait' := hflush.trans hwait
          refine ih (hs₁.steps hsteps) h' (fun hturn => ?_) ?_
          · cases hturn.symm.trans hwait'
          · simp only [remaining] at hfuel ⊢
            rw [hqueue]
            dsimp only
            omega

end Run

/-- What the queue does on the clock is over at once, or it ends where a session returns
or breaks off. -/
theorem process_settles (actors : Actors α β ω σ ε) (items : List α) (workers : List ω)
    (limit : Nat) (state : σ) :
    (∃ result, (begin? items workers limit (⟨0, state⟩ : Timed σ) :
        Except _ (State α β ω (Timed σ) ε)) = .error result ∧
      process actors items workers limit state = ⟨result, 0, state, 0, 0⟩) ∨
    ∃ s : Session α β ω (Timed σ) ε (Labor β ω σ),
      s.Reach actors.crew (Run.handler actors) items workers limit ⟨0, state⟩ ∧
      ∃ result, (s.Returned ∧ result = s.queue.result ∨
          s.Overflowed ∧ result = .error .overflow) ∧
        process actors items workers limit state =
          ⟨result, s.queue.world.now, s.queue.world.state, s.queue.buffered,
            s.queue.running.length⟩ := by
  unfold process
  cases hbegin : (begin? items workers limit (⟨0, state⟩ : Timed σ) :
      Except _ (State α β ω (Timed σ) ε)) with
  | error result => exact .inl ⟨result, rfl, rfl⟩
  | ok queue =>
    obtain ⟨hworkers, rfl⟩ := eq_initial_of_begin? hbegin
    obtain ⟨worker, rest, rfl⟩ := List.exists_cons_of_ne_nil hworkers
    generalize hqueue : (State.initial items (worker :: rest) limit ⟨0, state⟩ :
      State α β ω (Timed σ) ε) = queue at hbegin ⊢
    have hstart : Session.Reach actors.crew (Run.handler actors) items (worker :: rest) limit
        ⟨0, state⟩ ⟨queue, fun _ => .fresh worker, true, []⟩ := .start _ hbegin
    have hmirrors : Run.Mirrors (⟨queue, [], [], []⟩ : Run α β ω σ ε)
        ⟨queue, fun _ => .fresh worker, true, []⟩ := by
      subst hqueue
      refine ⟨rfl, .refl _, ?_, ?_, ?_⟩
      · exact fun _ h => nomatch h
      · exact fun _ h => nomatch h
      · exact fun _ h => nomatch h
    have hremaining : Run.remaining (⟨queue, [], [], []⟩ : Run α β ω σ ε) <
        3 * items.length + 3 := by
      have hlength := hstart.sound.length_pending
      dsimp only at hlength
      simp only [Run.remaining, Run.effort, List.length_nil]
      omega
    have hnext : queue.next? = none := by
      subst hqueue
      rfl
    obtain ⟨s, hs, h, hend⟩ := Run.loop_ends (3 * items.length + 3) hstart hmirrors
      (fun _ => hnext) hremaining
    dsimp only
    rw [Run.result, Run.now, ← h.queue]
    rcases hend with hreturned | hoverflowed
    · rw [hs.fits hreturned.1]
      exact .inr ⟨s, hs, _, .inl ⟨hreturned, rfl⟩, rfl⟩
    · rw [hoverflowed.2.2]
      exact .inr ⟨s, hs, _, .inr ⟨hoverflowed, rfl⟩, rfl⟩

/-- What the queue does on the clock is a run that returns, or one that breaks off. -/
theorem process_ends (actors : Actors α β ω σ ε) (items : List α) (workers : List ω)
    (limit : Nat) (state : σ) : ∃ log,
      Session.Returns actors.crew (Run.handler actors) items workers limit ⟨0, state⟩
        (process actors items workers limit state).result log
        ⟨(process actors items workers limit state).now,
          (process actors items workers limit state).state⟩ ∨
      (process actors items workers limit state).result = .error .overflow ∧
        Session.BreaksOff actors.crew (Run.handler actors) items workers limit ⟨0, state⟩ log
          ⟨(process actors items workers limit state).now,
            (process actors items workers limit state).state⟩ := by
  rcases process_settles actors items workers limit state with
    ⟨result, hbegin, hprocess⟩ | ⟨s, hs, result, hend, hprocess⟩
  · rw [hprocess]
    exact ⟨[], .inl (.atOnce hbegin)⟩
  · rw [hprocess]
    refine ⟨s.log, ?_⟩
    rcases hend with ⟨hreturned, rfl⟩ | ⟨hoverflowed, rfl⟩
    · exact .inl (.settled hs hreturned)
    · exact .inr ⟨rfl, .overflowed hs hoverflowed⟩

end Provenance.Queue
