import Provenance.Proofs.Queue.Clocked

/-!
What a queue does in a run, act by act, and how a run ends that fails. The first
failure decides: behind it nothing is dispatched and the handler is not called
again, the tasks that run are joined, whatever comes of them, and then the run
returns that failure and no other.
-/

namespace Provenance.Queue

variable {α β ω σ ε π : Type}

def Outcome.isLost : Outcome β ω → Bool
  | .completed _ _ => false
  | .lost => true

/-- What a queue does: it dispatches an item, joins the task of one, or hands
the result of one to the handler, which may refuse it. -/
inductive Act (ε : Type) where
  | dispatched (index : Nat)
  | joined (index : Nat) (isLost : Bool)
  | handled (index : Nat) (refusal : Option ε)

namespace Act

def failure? : Act ε → Option (Failure ε)
  | .dispatched _ => none
  | .joined _ isLost => if isLost then some .workerLost else none
  | .handled _ refusal => refusal.map .handler

def fails (act : Act ε) : Bool := act.failure?.isSome

def dispatched? : Act ε → Option Nat
  | .dispatched index => some index
  | _ => none

def joined? : Act ε → Option Nat
  | .joined index _ => some index
  | _ => none

def handled? : Act ε → Option Nat
  | .handled index _ => some index
  | _ => none

end Act

namespace Session

def starts (started : List (WorkItem α × ω)) : List (Act ε) :=
  started.map fun task => .dispatched task.1.index

inductive Does (crew : Crew α β ω σ π) (handle : Handler α β σ ε) :
    Session α β ω σ ε π → List (Act ε) → Session α β ω σ ε π → Prop
  | move {s : Session α β ω σ ε π} {item : WorkItem α} {world : σ} {p : π}
      (hitem : item ∈ s.queue.running)
      (hmove : crew.moves item s.queue.world (s.progress item.index) world p) :
      Does crew handle s []
        { s with
          queue := { s.queue with world }
          progress := Function.update s.progress item.index p }
  | stir {s : Session α β ω σ ε π} {world : σ} (hstir : crew.stirs s.queue.world world) :
      Does crew handle s [] { s with queue := { s.queue with world } }
  | join {s : Session α β ω σ ε π} {item : WorkItem α} {outcome : Outcome β ω} (endedAt : Nat)
      (hwait : s.flushing = false) (hitem : item ∈ s.queue.running)
      (hend : crew.ends item (s.progress item.index) outcome) :
      Does crew handle s [.joined item.index outcome.isLost]
        { s with
          queue := s.queue.accept (outcome.event item.index endedAt)
          flushing := true }
  | deliver {s : Session α β ω σ ε π} {item : WorkItem α} {output : β}
      (hflush : s.flushing = true) (hnext : s.queue.next? = some (item, output)) :
      Does crew handle s
        [.handled item.index (handle s.queue.world ⟨item, output, s.queue.buffered - 1⟩).2]
        { s with
          queue := s.queue.deliverNext handle item output
          log := s.log ++ [⟨item, output, s.queue.buffered - 1⟩] }
  | resume {s : Session α β ω σ ε π} (now : Nat) (hflush : s.flushing = true)
      (hnext : s.queue.next? = none) (hfits : s.queue.overflows = false) :
      Does crew handle s (starts (s.queue.dispatch now).2) (s.dispatch crew now)

/-- A run up to a session, with all that the queue has done in it. -/
inductive History (crew : Crew α β ω σ π) (handle : Handler α β σ ε) (items : List α)
    (workers : List ω) (limit : Nat) (world : σ) :
    List (Act ε) → Session α β ω σ ε π → Prop
  | start {queue : State α β ω σ ε} (progress : Nat → π)
      (hbegin : begin? items workers limit world = .ok queue) :
      History crew handle items workers limit world [] ⟨queue, progress, true, []⟩
  | step {acts more : List (Act ε)} {s s' : Session α β ω σ ε π}
      (hs : History crew handle items workers limit world acts s)
      (hdoes : Does crew handle s more s') :
      History crew handle items workers limit world (acts ++ more) s'

variable {crew : Crew α β ω σ π} {handle : Handler α β σ ε} {items : List α} {workers : List ω}
  {limit : Nat} {world : σ} {s s' : Session α β ω σ ε π} {acts more : List (Act ε)}

theorem Does.step (h : Does crew handle s acts s') : Step crew handle s s' := by
  cases h with
  | move hitem hmove => exact .move hitem hmove
  | stir hstir => exact .stir hstir
  | join endedAt hwait hitem hend => exact .join endedAt hwait hitem hend
  | deliver hflush hnext => exact .deliver hflush hnext
  | resume now hflush hnext hfits => exact .resume now hflush hnext hfits

theorem Step.exists_does (h : Step crew handle s s') : ∃ acts, Does crew handle s acts s' := by
  cases h with
  | move hitem hmove => exact ⟨_, .move hitem hmove⟩
  | stir hstir => exact ⟨_, .stir hstir⟩
  | join endedAt hwait hitem hend => exact ⟨_, .join endedAt hwait hitem hend⟩
  | deliver hflush hnext => exact ⟨_, .deliver hflush hnext⟩
  | resume now hflush hnext hfits => exact ⟨_, .resume now hflush hnext hfits⟩

theorem History.reach (h : History crew handle items workers limit world acts s) :
    Reach crew handle items workers limit world s := by
  induction h with
  | start progress hbegin => exact .start progress hbegin
  | step _ hdoes ih => exact ih.step hdoes.step

/-- Every session that a run comes through has a history. -/
theorem Reach.exists_history (h : Reach crew handle items workers limit world s) :
    ∃ acts, History crew handle items workers limit world acts s := by
  induction h with
  | start progress hbegin => exact ⟨_, .start progress hbegin⟩
  | step _ hstep ih =>
    obtain ⟨acts, hacts⟩ := ih
    obtain ⟨more, hmore⟩ := hstep.exists_does
    exact ⟨acts ++ more, hacts.step hmore⟩

theorem fails_of_mem_starts {started : List (WorkItem α × ω)} {act : Act ε}
    (h : act ∈ starts started) : act.fails = false := by
  obtain ⟨task, -, rfl⟩ := List.mem_map.1 h
  rfl

theorem find?_starts (started : List (WorkItem α × ω)) :
    (starts started : List (Act ε)).find? Act.fails = none :=
  List.find?_eq_none.2 fun act hact => by simp [fails_of_mem_starts hact]

theorem handled_starts (started : List (WorkItem α × ω)) :
    (starts started : List (Act ε)).filterMap Act.handled? = [] := by
  refine List.filterMap_eq_nil_iff.2 fun act hact => ?_
  obtain ⟨task, -, rfl⟩ := List.mem_map.1 hact
  rfl

theorem joined_starts (started : List (WorkItem α × ω)) :
    (starts started : List (Act ε)).filterMap Act.joined? = [] := by
  refine List.filterMap_eq_nil_iff.2 fun act hact => ?_
  obtain ⟨task, -, rfl⟩ := List.mem_map.1 hact
  rfl

theorem dispatched_starts (started : List (WorkItem α × ω)) :
    (starts started : List (Act ε)).filterMap Act.dispatched? =
      (started.map Prod.fst).map WorkItem.index := by
  rw [starts, List.filterMap_map, List.map_map]
  exact congrFun List.filterMap_eq_map' started

structure Recorded (acts : List (Act ε)) (s : Session α β ω σ ε π) : Prop where
  failure : s.queue.failure = (acts.find? Act.fails).bind Act.failure?
  drains : acts.Pairwise fun a b => a.fails = true → b.joined?.isSome = true
  handled : acts.filterMap Act.handled? = List.range s.queue.head
  tasks : (acts.filterMap Act.dispatched?).Perm
    (acts.filterMap Act.joined? ++ s.queue.running.map WorkItem.index)
  /-- A task that was lost first was not before the head. -/
  ahead : ∀ index, acts.find? Act.fails = some (.joined index true) → s.queue.head ≤ index

namespace Recorded

theorem find?_eq_none (hs : Recorded acts s) (hfailure : s.queue.failure = none) :
    acts.find? Act.fails = none := by
  have hfirst := hs.failure
  cases hfound : acts.find? Act.fails with
  | none => rfl
  | some act =>
    have hfails : act.fails = true := List.find?_some hfound
    rw [hfailure, hfound, Option.bind_some] at hfirst
    rw [Act.fails, ← hfirst] at hfails
    cases hfails

theorem find?_isSome (hs : Recorded acts s) (hfailure : s.queue.failure ≠ none) :
    (acts.find? Act.fails).isSome = true := by
  have hfirst := hs.failure
  cases hfound : acts.find? Act.fails with
  | none =>
    rw [hfound, Option.bind_none] at hfirst
    exact absurd hfirst hfailure
  | some act => rfl

/-- More acts may follow if behind a failure they are joins. -/
theorem drains_append (hs : Recorded acts s)
    (hmore : s.queue.failure ≠ none → ∀ act ∈ more, act.joined?.isSome = true)
    (hfew : more.Pairwise fun a b => a.fails = true → b.joined?.isSome = true) :
    (acts ++ more).Pairwise fun a b => a.fails = true → b.joined?.isSome = true := by
  refine List.pairwise_append.2 ⟨hs.drains, hfew, fun a ha b hb hfails => ?_⟩
  refine hmore (fun hfailure => ?_) b hb
  have hnone := List.find?_eq_none.1 (hs.find?_eq_none hfailure) a ha
  exact hnone hfails

/-- A step that is no act of the queue. -/
theorem quiet (hs : Recorded acts s) (world : σ) (progress : Nat → π) :
    Recorded acts { s with queue := { s.queue with world }, progress } :=
  ⟨hs.failure, hs.drains, hs.handled, hs.tasks, hs.ahead⟩

theorem dispatch (hs : Recorded acts s) (crew : Crew α β ω σ π) (now : Nat) :
    Recorded (acts ++ starts (s.queue.dispatch now).2) (s.dispatch crew now) := by
  refine ⟨?_, ?_, ?_, ?_, ?_⟩
  · rw [List.find?_append, find?_starts, Option.or_none]
    exact (s.queue.dispatch_failure now).trans hs.failure
  · refine hs.drains_append (fun hfailure act hact => ?_) ?_
    · rw [State.dispatch_of_failure hfailure] at hact
      cases hact
    · refine List.pairwise_iff_forall_sublist.2 fun hsub hfails => ?_
      rw [fails_of_mem_starts (hsub.subset List.mem_cons_self)] at hfails
      cases hfails
  · rw [List.filterMap_append, handled_starts, List.append_nil, hs.handled]
    exact congrArg List.range (s.queue.dispatch_head now).symm
  · have hrunning : (s.dispatch crew now).queue.running =
        s.queue.running ++ (s.queue.dispatch now).2.map Prod.fst := s.queue.dispatch_running now
    rw [List.filterMap_append, List.filterMap_append, dispatched_starts, joined_starts,
      List.append_nil, hrunning, List.map_append, ← List.append_assoc]
    exact hs.tasks.append_right _
  · intro index hfirst
    rw [List.find?_append, find?_starts, Option.or_none] at hfirst
    exact (s.queue.dispatch_head now).symm ▸ hs.ahead index hfirst

theorem join {staff : Nat} {Good : WorkItem α → β → Prop} (hs : Recorded acts s)
    (hsound : s.queue.Sound items staff Good) {item : WorkItem α} (hitem : item ∈ s.queue.running)
    (outcome : Outcome β ω) (endedAt : Nat) :
    Recorded (acts ++ [.joined item.index outcome.isLost])
      { s with
        queue := s.queue.accept (outcome.event item.index endedAt)
        flushing := true } := by
  refine ⟨?_, ?_, ?_, ?_, ?_⟩
  · rw [List.find?_append]
    cases hfailure : s.queue.failure with
    | some failure =>
      have hfirst := hs.failure
      obtain ⟨act, hact⟩ := Option.isSome_iff_exists.1 (hs.find?_isSome (by simp [hfailure]))
      rw [hact, hfailure] at hfirst
      rw [hact, Option.some_or, ← hfirst]
      cases outcome with
      | completed worker output =>
        exact (State.accept_failure_completed _ _ _ _ _).trans hfailure
      | lost => exact (State.accept_failure_lost _ _).trans (by rw [hfailure, Option.some_or])
    | none =>
      rw [hs.find?_eq_none hfailure, Option.none_or]
      cases outcome with
      | completed worker output =>
        exact (State.accept_failure_completed _ _ _ _ _).trans hfailure
      | lost => exact (State.accept_failure_lost _ _).trans (by rw [hfailure]; rfl)
  · exact hs.drains_append (fun _ act hact => by rw [List.mem_singleton.1 hact]; rfl)
      (List.pairwise_singleton _ _)
  · have hhead := State.accept_head s.queue (outcome.event item.index endedAt)
    rw [List.filterMap_append, hs.handled, hhead]
    exact List.append_nil _
  · have hperm := hs.tasks.trans ((hsound.perm_running hitem).append_left _)
    rw [List.filterMap_append, List.filterMap_append]
    simp only [hsound.accept_running hitem]
    change (acts.filterMap Act.dispatched? ++ []).Perm
      (acts.filterMap Act.joined? ++ [item.index] ++ _)
    rwa [List.append_nil, List.append_assoc]
  · intro index hfirst
    simp only [State.accept_head]
    rw [List.find?_append] at hfirst
    cases hfound : acts.find? Act.fails with
    | some act =>
      rw [hfound, Option.some_or] at hfirst
      exact hs.ahead index (hfound.trans hfirst)
    | none =>
      rw [hfound, Option.none_or] at hfirst
      have hact := List.mem_singleton.1 (List.mem_of_find?_eq_some hfirst)
      rw [(Act.joined.inj hact).1]
      exact hsound.ahead item hitem

theorem deliver {staff : Nat} {Good : WorkItem α → β → Prop} (hs : Recorded acts s)
    (hsound : s.queue.Sound items staff Good) (handle : Handler α β σ ε) {item : WorkItem α}
    {output : β} (hnext : s.queue.next? = some (item, output)) :
    Recorded
      (acts ++
        [.handled item.index (handle s.queue.world ⟨item, output, s.queue.buffered - 1⟩).2])
      { s with
        queue := s.queue.deliverNext handle item output
        log := s.log ++ [⟨item, output, s.queue.buffered - 1⟩] } := by
  have hfailure := (State.next?_eq_some_iff.1 hnext).1
  obtain ⟨hindex, -, -⟩ := hsound.next hnext
  obtain ⟨-, hfailed⟩ := State.deliverNext_handled handle hfailure item output
  have hnone := hs.find?_eq_none hfailure
  refine ⟨?_, ?_, ?_, ?_, ?_⟩
  · rw [List.find?_append, hnone, Option.none_or, hfailed]
    cases (handle s.queue.world ⟨item, output, s.queue.buffered - 1⟩).2 <;> rfl
  · exact hs.drains_append (fun hfails => absurd hfailure hfails) (List.pairwise_singleton _ _)
  · rw [List.filterMap_append, hs.handled, State.deliverNext_head, List.range_succ, ← hindex]
    rfl
  · rw [List.filterMap_append, List.filterMap_append, State.deliverNext_running]
    change (acts.filterMap Act.dispatched? ++ []).Perm (acts.filterMap Act.joined? ++ [] ++ _)
    rw [List.append_nil, List.append_nil]
    exact hs.tasks
  · intro index hfirst
    rw [List.find?_append, hnone, Option.none_or] at hfirst
    cases List.mem_singleton.1 (List.mem_of_find?_eq_some hfirst)

end Recorded

/-- By induction on the run: each step adds what the queue does in it. -/
theorem History.recorded (h : History crew handle items workers limit world acts s) :
    Recorded acts s := by
  induction h with
  | start progress hbegin =>
    obtain ⟨-, rfl⟩ := eq_initial_of_begin? hbegin
    exact ⟨rfl, .nil, rfl, .nil, fun _ h => nomatch h⟩
  | step hs hdoes ih =>
    have hsound := hs.reach.sound
    cases hdoes with
    | move =>
      rw [List.append_nil]
      exact ih.quiet _ _
    | stir =>
      rw [List.append_nil]
      exact ih.quiet _ _
    | join endedAt _ hitem _ => exact ih.join hsound hitem _ endedAt
    | deliver _ hnext => exact ih.deliver hsound handle hnext
    | resume now => exact ih.dispatch crew now

theorem failure_eq_none_iff {act : Act ε} : act.failure? = none ↔ act.fails = false := by
  rw [Act.fails, Option.isSome_eq_false_iff, Option.isNone_iff_eq_none]

/-- An act behind which nothing fails any more. -/
theorem find?_of_first {before after : List (Act ε)} {act : Act ε}
    (hbefore : ∀ other ∈ before, other.failure? = none) (hact : act.failure? ≠ none) :
    (before ++ act :: after).find? Act.fails = some act := by
  have hnone : before.find? Act.fails = none :=
    List.find?_eq_none.2 fun other hother => by
      simp [failure_eq_none_iff.1 (hbefore other hother)]
  rw [List.find?_append, hnone, Option.none_or]
  exact List.find?_cons_of_pos (Option.isSome_iff_ne_none.2 hact)

namespace Recorded

theorem failure_none_iff (hs : Recorded acts s) :
    s.queue.failure = none ↔ ∀ act ∈ acts, act.failure? = none := by
  constructor
  · intro hfailure act hact
    have hnone := List.find?_eq_none.1 (hs.find?_eq_none hfailure) act hact
    exact failure_eq_none_iff.2 (Bool.eq_false_iff.2 hnone)
  · intro hall
    have hnone : acts.find? Act.fails = none :=
      List.find?_eq_none.2 fun act hact => by simp [failure_eq_none_iff.1 (hall act hact)]
    rw [hs.failure, hnone, Option.bind_none]

/-- Where nothing runs, all that was dispatched was joined. -/
theorem joined_perm (hs : Recorded acts s) (hreturned : s.Returned) :
    (acts.filterMap Act.joined?).Perm (acts.filterMap Act.dispatched?) := by
  have htasks := hs.tasks
  rw [hreturned.running_eq_nil, List.map_nil, List.append_nil] at htasks
  exact htasks.symm

variable {before after : List (Act ε)} {act : Act ε}

/-- Behind a failure there are joins only. -/
theorem joins_behind (hs : Recorded (before ++ act :: after) s) (hact : act.failure? ≠ none) :
    ∀ other ∈ after, ∃ index isLost, other = .joined index isLost := by
  intro other hother
  have hcons := (List.pairwise_append.1 hs.drains).2.1
  have hjoined := (List.pairwise_cons.1 hcons).1 other hother (Option.isSome_iff_ne_none.2 hact)
  cases other with
  | dispatched index => cases hjoined
  | joined index isLost => exact ⟨index, isLost, rfl⟩
  | handled index refusal => cases hjoined

/-- What the handler refused is the last that it was given. -/
theorem handled_of_refusal {index : Nat} {cause : ε}
    (hs : Recorded (before ++ .handled index (some cause) :: after) s) :
    (before ++ .handled index (some cause) :: after).filterMap Act.handled? =
      List.range (index + 1) := by
  have hafter : after.filterMap Act.handled? = [] := by
    refine List.filterMap_eq_nil_iff.2 fun other hother => ?_
    obtain ⟨index, isLost, rfl⟩ := hs.joins_behind (by simp [Act.failure?]) other hother
    rfl
  have hall : before.filterMap Act.handled? ++ [index] = List.range s.queue.head := by
    have hhandled := hs.handled
    rw [List.filterMap_append] at hhandled
    change before.filterMap Act.handled? ++ index :: after.filterMap Act.handled? = _ at hhandled
    rwa [hafter] at hhandled
  -- The last number of a range tells how long it is.
  have hlength := congrArg List.length hall
  rw [List.length_append, List.length_singleton, List.length_range] at hlength
  rw [← hlength, List.range_succ] at hall
  obtain ⟨-, hindex⟩ := List.append_inj' hall rfl
  rw [hs.handled, ← hlength, List.singleton_inj.1 hindex]

end Recorded

end Session

/-- The first failure of a run decides how it goes on and what it returns. Every
session that a run comes through has a history. Behind the first failure in it
there are joins only, and a run that returns has joined all that it dispatched
and returns that failure. What the handler refused is the last that it was given,
with all items before it, and an item that was lost had not been handed on. -/
theorem first_failure_decides (crew : Crew α β ω σ π) (handle : Handler α β σ ε) (items : List α)
    (workers : List ω) (limit : Nat) (world : σ) :
    (∀ s : Session α β ω σ ε π, s.Reach crew handle items workers limit world →
      ∃ acts, s.History crew handle items workers limit world acts) ∧
    ∀ (s : Session α β ω σ ε π) (acts : List (Act ε)),
      Session.History crew handle items workers limit world acts s →
      (s.queue.failure = none ↔ ∀ act ∈ acts, act.failure? = none) ∧
      (s.Returned → (acts.filterMap Act.joined?).Perm (acts.filterMap Act.dispatched?)) ∧
      ∀ before act after failure, acts = before ++ act :: after →
        (∀ other ∈ before, other.failure? = none) → act.failure? = some failure →
        (∀ other ∈ after, ∃ index isLost, other = .joined index isLost) ∧
        (s.Returned → s.queue.result = .error failure) ∧
        (∀ index cause, act = .handled index (some cause) →
          acts.filterMap Act.handled? = List.range (index + 1)) ∧
        ∀ index, act = .joined index true →
          ∃ count ≤ index, acts.filterMap Act.handled? = List.range count := by
  refine ⟨fun s hs => hs.exists_history, fun s acts hhistory => ?_⟩
  have hs := hhistory.recorded
  refine ⟨hs.failure_none_iff, hs.joined_perm, ?_⟩
  rintro before act after failure rfl hbefore hact
  have hfails : act.failure? ≠ none := by simp [hact]
  have hfirst : (before ++ act :: after).find? Act.fails = some act :=
    Session.find?_of_first hbefore hfails
  refine ⟨hs.joins_behind hfails, fun _ => ?_, ?_, ?_⟩
  · have hfailure := hs.failure
    rw [hfirst, Option.bind_some, hact] at hfailure
    rw [State.result, hfailure]
  · rintro index cause rfl
    exact hs.handled_of_refusal
  · rintro index rfl
    exact ⟨s.queue.head, hs.ahead index hfirst, hs.handled⟩

def mortals : Crew Nat Nat Unit Unit Unit where
  begins _ _ := ()
  moves _ world _ world' _ := world = world'
  ends item _ outcome := outcome = .completed () item.payload ∨ outcome = .lost
  stirs _ _ := False

/-- The first result is refused while the second item runs, which then is lost. -/
theorem refusal_outlasts_loss :
    let handle : Handler Nat Nat Unit String := fun world _ => (world, some "refused")
    let acts : List (Act String) := [.dispatched 0, .dispatched 1, .joined 0 false,
      .handled 0 (some "refused"), .joined 1 true]
    ∃ s : Session Nat Nat Unit Unit String Unit,
      s.Reach mortals handle [3, 5, 7] [(), ()] 0 () ∧
      s.History mortals handle [3, 5, 7] [(), ()] 0 () acts ∧ s.Returned ∧
      s.queue.result = .error (.handler "refused") ∧
      acts.filterMap Act.handled? = List.range 1 := by
  intro handle acts
  have hdispatched : Session.History mortals handle [3, 5, 7] [(), ()] 0 () _ _ :=
    .step (.start (fun _ => ()) rfl) (.resume 0 rfl rfl rfl)
  have hfirst := hdispatched.step (.join 4 rfl List.mem_cons_self (.inl rfl))
  have hrefused := (hfirst.step (.deliver rfl rfl)).step (.resume 4 rfl rfl rfl)
  have hlost := (hrefused.step (.join 6 rfl List.mem_cons_self (.inr rfl))).step
    (.resume 6 rfl rfl rfl)
  have hacts : Session.History mortals handle [3, 5, 7] [(), ()] 0 () acts _ := hlost
  have hfollows := (first_failure_decides mortals handle [3, 5, 7] [(), ()] 0 ()).2 _ acts hacts
  obtain ⟨-, hresult, hhandled, -⟩ := hfollows.2.2 [.dispatched 0, .dispatched 1, .joined 0 false]
    (.handled 0 (some "refused")) [.joined 1 true] (.handler "refused") rfl (by decide) rfl
  exact ⟨_, hlost.reach, hacts, ⟨rfl, rfl⟩, hresult ⟨rfl, rfl⟩, hhandled 0 "refused" rfl⟩

end Provenance.Queue
