import Provenance.Proofs.Cbor.Reading

/-!
What the walk over an item owes, in its counters or on its stack: a number of
items that are wanted and, behind each break to come, some more. Counts would
saturate, but each of them is paid with bytes that follow, so in a walk that
comes to its end none of them has.
-/

namespace Provenance.Cbor

namespace Owed

/-- The items that the top of the stack wants. A count is taken off only with
the item after its last one, so one more is wanted than the counts together. -/
def wanted : List (Option Nat) → Nat
  | some n :: stack => n + 1 + (wanted stack - 1)
  | _ => 0

/-- The items that are wanted behind each container that waits for its break. -/
def behind : List (Option Nat) → List Nat
  | [] => []
  | some _ :: stack => behind stack
  | none :: stack => (wanted stack - 1) :: behind stack

def counted : List (Option Nat) → Nat
  | [] => 0
  | some n :: stack => n + counted stack
  | none :: stack => counted stack

def counts (owed : Owed) : Nat := owed.items + counted owed.stack

def waits (owed : Owed) : Nat := owed.breaks + owed.stack.count none

theorem wanted_takeFromStack (stack : List (Option Nat)) :
    wanted (takeFromStack stack) = wanted stack - 1 := by
  fun_induction takeFromStack stack with
  | case1 rest ih =>
    rw [ih, wanted]
    omega
  | case2 n rest =>
    simp only [wanted]
    omega
  | case3 stack hzero hsucc =>
    rcases stack with _ | ⟨_ | _ | n, stack⟩
    · rfl
    · rfl
    · exact absurd rfl (hzero stack)
    · exact absurd rfl (hsucc n stack)

theorem behind_takeFromStack (stack : List (Option Nat)) :
    behind (takeFromStack stack) = behind stack := by
  fun_induction takeFromStack stack with
  | case1 rest ih => rw [ih, behind]
  | case2 => rfl
  | case3 => rfl

theorem counted_takeFromStack (stack : List (Option Nat)) :
    counted stack ≤ counted (takeFromStack stack) + 1 := by
  fun_induction takeFromStack stack with
  | case1 rest ih =>
    rw [counted]
    omega
  | case2 n rest =>
    simp only [counted]
    omega
  | case3 => omega

theorem count_takeFromStack (stack : List (Option Nat)) :
    (takeFromStack stack).count none = stack.count none := by
  fun_induction takeFromStack stack with
  | case1 rest ih => simp [ih]
  | case2 n rest => simp
  | case3 => rfl

theorem wanted_replicate (n : Nat) : wanted (List.replicate n none) = 0 := by
  cases n <;> rfl

theorem counted_replicate_append (n : Nat) (stack : List (Option Nat)) :
    counted (List.replicate n none ++ stack) = counted stack := by
  induction n with
  | zero => rfl
  | succ n ih => rw [List.replicate_succ, List.cons_append, counted, ih]

theorem behind_replicate (n : Nat) : behind (List.replicate n none) = List.replicate n 0 := by
  induction n with
  | zero => rfl
  | succ n ih => rw [List.replicate_succ, behind, wanted_replicate, ih, List.replicate_succ]

end Owed

/-- What is owed, as the number of items that are wanted and the numbers of
those wanted behind each break to come: either counters run or the stack
decides. -/
inductive Owes : Owed → Nat → List Nat → Prop
  | counting {items breaks : Nat} (hruns : 0 < items + breaks) :
      Owes ⟨items, breaks, []⟩ items (List.replicate breaks 0)
  | stacked (stack : List (Option Nat)) : Owes ⟨0, 0, stack⟩ (Owed.wanted stack) (Owed.behind stack)

section Effects

variable {owed owed' : Owed} {e : Element} {c k : Nat} {cs : List Nat}

theorem Owed.not_idle_of_running {items breaks : Nat} (h : 0 < items + breaks)
    (stack : List (Option Nat)) : ¬ Owed.idle ⟨items, breaks, stack⟩ = true := by
  simp only [Owed.idle, Bool.and_eq_true, beq_iff_eq]
  omega

/-- Counters that have run out leave an empty stack behind. -/
theorem owes_counters (items breaks : Nat) :
    Owes ⟨items, breaks, []⟩ items (List.replicate breaks 0) := by
  by_cases hruns : 0 < items + breaks
  · exact .counting hruns
  · obtain rfl : items = 0 := by omega
    obtain rfl : breaks = 0 := by omega
    exact .stacked []

theorem Owes.settled_iff (h : Owes owed c cs) : owed.settled = true ↔ c = 0 ∧ cs = [] := by
  cases h with
  | counting hruns =>
    constructor
    · intro hsettled
      rw [Owed.settled, Bool.and_eq_true] at hsettled
      exact absurd hsettled.1 (Owed.not_idle_of_running hruns [])
    · rintro ⟨rfl, hnone⟩
      rw [List.replicate_eq_nil_iff] at hnone
      omega
  | stacked stack =>
    rcases stack with _ | ⟨_ | n, stack⟩
    all_goals simp [Owed.settled, Owed.idle, Owed.wanted, Owed.behind]

theorem Owes.completeItem (h : Owes owed c cs) : Owes owed.completeItem (c - 1) cs := by
  cases h with
  | @counting _ breaks hruns =>
    rw [Owed.completeItem, if_neg (Owed.not_idle_of_running hruns [])]
    exact owes_counters (c - 1) breaks
  | stacked stack =>
    have hnext := Owes.stacked (Owed.takeFromStack stack)
    rwa [Owed.wanted_takeFromStack, Owed.behind_takeFromStack] at hnext

/-- One item more than was wanted is wanted only where none was. -/
theorem Owes.openCounted (h : Owes owed c cs) (hk : 0 < k)
    (hcounts : (owed.openCounted k).counts < 2 ^ 64 - 1) :
    ∃ c', Owes (owed.openCounted k) c' cs ∧ c + k ≤ c' ∧ c' ≤ c + k + 1 ∧
      (0 < c → c' = c + k) := by
  cases h with
  | @counting _ breaks hruns =>
    have heq : Owed.openCounted ⟨c, breaks, []⟩ k = ⟨saturate (c + k), breaks, []⟩ := by
      rw [Owed.openCounted, if_neg (by omega), if_neg (Owed.not_idle_of_running hruns [])]
    rw [heq] at hcounts ⊢
    have hsum : saturate (c + k) = c + k := by
      simp only [Owed.counts, saturate] at hcounts ⊢
      omega
    rw [hsum]
    exact ⟨c + k, owes_counters (c + k) breaks, by omega, by omega, fun _ => rfl⟩
  | stacked stack =>
    have heq : Owed.openCounted ⟨0, 0, stack⟩ k = ⟨0, 0, some k :: stack⟩ := by
      simp only [Owed.openCounted, if_neg (show ¬ k = 0 by omega), Owed.idle, beq_self_eq_true,
        Bool.and_self, if_pos]
    rw [heq]
    refine ⟨_, .stacked (some k :: stack), ?_, ?_, ?_⟩
    · rw [Owed.wanted]
      omega
    · rw [Owed.wanted]
      omega
    · intro hc
      rw [Owed.wanted]
      omega

theorem Owes.openUncounted (h : Owes owed c cs) (hwaits : owed.openUncounted.waits < 2 ^ 64 - 1) :
    ∃ c', c' ≤ 1 ∧ Owes owed.openUncounted c' ((c - 1) :: cs) := by
  cases h with
  | @counting _ breaks hruns =>
    by_cases hitems : c < 2
    · have heq : Owed.openUncounted ⟨c, breaks, []⟩ = ⟨c, saturate (breaks + 1), []⟩ := by
        rw [Owed.openUncounted, if_neg (Owed.not_idle_of_running hruns []), if_pos hitems]
      rw [heq] at hwaits ⊢
      have hbreaks : saturate (breaks + 1) = breaks + 1 := by
        simp only [Owed.waits, saturate] at hwaits ⊢
        omega
      have hzero : c - 1 = 0 := by omega
      rw [hbreaks, hzero]
      exact ⟨c, by omega, owes_counters c (breaks + 1)⟩
    · have heq : Owed.openUncounted ⟨c, breaks, []⟩ =
          ⟨0, 0, none :: some (c - 1) :: (List.replicate breaks none ++ [])⟩ := by
        rw [Owed.openUncounted, if_neg (Owed.not_idle_of_running hruns []), if_neg hitems]
      rw [heq, List.append_nil]
      have hnext := Owes.stacked (none :: some (c - 1) :: List.replicate breaks none)
      simp only [Owed.wanted, Owed.behind, Owed.wanted_replicate, Owed.behind_replicate] at hnext
      exact ⟨0, by omega, hnext⟩
  | stacked stack => exact ⟨0, by omega, .stacked (none :: stack)⟩

theorem Owes.takeBreak {r : Nat} (h : Owes owed 0 (r :: cs)) :
    ∃ c', c' - 1 = r ∧ Owes owed.takeBreak c' cs := by
  generalize hc : 0 = c at h
  generalize hall : r :: cs = all at h
  cases h with
  | @counting items breaks hruns =>
    subst hc
    cases breaks with
    | zero => cases hall
    | succ breaks =>
      cases hall
      rw [Owed.takeBreak, if_neg (Owed.not_idle_of_running hruns [])]
      exact ⟨0, rfl, owes_counters 0 breaks⟩
  | stacked stack =>
    rcases stack with _ | ⟨_ | n, stack⟩
    · cases hall
    · cases hall
      exact ⟨Owed.wanted stack, rfl, .stacked stack⟩
    · simp only [Owed.wanted] at hc
      omega

theorem Owed.counts_completeItem (owed : Owed) : owed.counts ≤ owed.completeItem.counts + 1 := by
  unfold Owed.completeItem Owed.counts
  split
  · have := counted_takeFromStack owed.stack
    simp only
    omega
  · simp only
    omega

theorem Owed.waits_completeItem (owed : Owed) : owed.completeItem.waits = owed.waits := by
  unfold Owed.completeItem Owed.waits
  split
  · simp only [count_takeFromStack]
  · rfl

theorem Owed.counts_openCounted (owed : Owed) (k : Nat) :
    saturate (owed.counts + k) ≤ (owed.openCounted k).counts := by
  unfold Owed.openCounted Owed.counts saturate
  split
  · omega
  · split
    · simp only [counted]
      omega
    · simp only
      omega

theorem Owed.waits_openCounted (owed : Owed) (k : Nat) :
    (owed.openCounted k).waits = owed.waits := by
  unfold Owed.openCounted Owed.waits
  split
  · rfl
  · split
    · simp
    · rfl

/-- Where counts go to the stack, the item they lose is not taken off again. -/
theorem Owed.counts_openUncounted (owed : Owed) :
    owed.counts ≤ owed.openUncounted.completeItem.counts + 1 := by
  by_cases hidle : owed.idle
  · have hnext : owed.openUncounted.counts = owed.counts := by
      simp [Owed.openUncounted, Owed.counts, Owed.counted, hidle]
    have := owed.openUncounted.counts_completeItem
    omega
  · by_cases hitems : owed.items < 2
    · have hnext : owed.openUncounted.counts = owed.counts := by
        simp [Owed.openUncounted, Owed.counts, hidle, hitems]
      have := owed.openUncounted.counts_completeItem
      omega
    · have heq : owed.openUncounted.completeItem =
          ⟨0, 0, none :: some (owed.items - 1) ::
            (List.replicate owed.breaks none ++ owed.stack)⟩ := by
        rw [Owed.openUncounted, if_neg hidle, if_neg hitems]
        rfl
      rw [heq]
      simp only [Owed.counts, Owed.counted, Owed.counted_replicate_append]
      omega

theorem Owed.waits_openUncounted (owed : Owed) :
    saturate owed.waits ≤ owed.openUncounted.waits := by
  unfold Owed.openUncounted Owed.waits saturate
  split
  · simp only [List.count_cons_self]
    omega
  · split
    · simp only
      omega
    · simp only [List.count_cons_self, List.count_append, List.count_replicate_self,
        List.count_cons_of_ne (Option.some_ne_none _)]
      omega

theorem Owed.counts_takeBreak (owed : Owed) : owed.takeBreak.counts = owed.counts := by
  unfold Owed.takeBreak Owed.counts
  split
  · split
    · rename_i hstack
      rw [hstack, counted]
    · rfl
  · rfl

theorem Owed.waits_takeBreak (owed : Owed) : owed.waits ≤ owed.takeBreak.waits + 1 := by
  unfold Owed.takeBreak Owed.waits
  split
  · split
    · rename_i hstack
      simp only [hstack, List.count_cons_self]
      omega
    · omega
  · simp only
    omega

theorem Effect.counts (h : Effect owed e owed') : saturate owed.counts ≤ owed'.counts + 1 := by
  have hle : saturate owed.counts ≤ owed.counts := Nat.min_le_left _ _
  cases h with
  | leaf | reserved => exact Nat.le_trans hle owed.counts_completeItem
  | @holder n k hcount =>
    have hopen := owed.counts_openCounted k
    have := (owed.openCounted k).counts_completeItem
    unfold saturate at hopen ⊢
    omega
  | tag => omega
  | opened => exact Nat.le_trans hle owed.counts_openUncounted
  | stop =>
    have hbreak := owed.counts_takeBreak
    have := owed.takeBreak.counts_completeItem
    omega

theorem Effect.waits (h : Effect owed e owed') : saturate owed.waits ≤ owed'.waits + 1 := by
  have hle : saturate owed.waits ≤ owed.waits := Nat.min_le_left _ _
  cases h with
  | leaf | reserved =>
    rw [owed.waits_completeItem]
    omega
  | @holder n k hcount =>
    rw [Owed.waits_completeItem, owed.waits_openCounted]
    omega
  | tag => omega
  | opened =>
    have := owed.waits_openUncounted
    rw [Owed.waits_completeItem]
    omega
  | stop =>
    have := owed.waits_takeBreak
    rw [Owed.waits_completeItem]
    omega

/-- What is owed at any moment is paid with the bytes to come, one for each
item and one for each break; so no count can have been cut off. -/
theorem settle_bound {bytes rest : Bytes} (hlen : bytes.length < 2 ^ 64 - 1)
    (h : settle owed bytes = .ok rest) :
    owed.counts ≤ bytes.length ∧ owed.waits ≤ bytes.length := by
  fun_induction settle owed bytes with
  | case1 owed bytes hsettled =>
    obtain ⟨items, breaks, stack⟩ := owed
    simp only [Owed.settled, Owed.idle, Bool.and_eq_true, beq_iff_eq, List.isEmpty_iff] at hsettled
    obtain ⟨⟨rfl, rfl⟩, rfl⟩ := hsettled
    exact ⟨Nat.zero_le _, Nat.zero_le _⟩
  | case2 => cases h
  | case3 owed bytes howed owed' mid hmid ih =>
    have hshort := element_length hmid
    obtain ⟨e, piece, -, -, heffect⟩ := element_eq_ok hmid
    obtain ⟨hcounts, hwaits⟩ := ih (by omega) h
    have hcounted := heffect.counts
    have hwaited := heffect.waits
    unfold saturate at hcounted hwaited
    omega

end Effects

end Provenance.Cbor
