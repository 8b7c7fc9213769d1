import Provenance.Proofs.Cbor.Locality
import Provenance.Proofs.Cbor.Nesting
import Provenance.Proofs.Cbor.Owing

/-!
The walk over an item, beside the nesting of the grammar. While the bytes keep
to the grammar the walk wants what the nesting wants, but for one item that is
forgotten where a counted container stands directly in an open one. It asks for
nothing else, so it does not notice a break that stands where an item is due or
where a map lacks its last value, nor a simple value in two bytes that belongs
in one. Nothing else leaves the grammar unnoticed.
-/

namespace Provenance.Cbor

/-- The walk beside the nesting, `base` items around it apart. In the open
items that have begun inside, it may have forgotten one item each. -/
inductive Near (base : Nat) : Nat → List Nat → Nat → List Frame → Prop
  | last {c d : Nat} (hdue : d = c + base) : Near base c [] d []
  | inside {c d r : Nat} {cs : List Nat} {frame : Frame} {frames : List Frame} (hle : c ≤ d)
      (hlt : d ≤ c + 1) (hnear : Near base r cs frame.resume frames) :
      Near base c (r :: cs) d (frame :: frames)

def Strays (p : Nesting) (bytes : Bytes) : Prop :=
  ∃ q front e piece back, bytes = front ++ (piece ++ back) ∧ Run ValidText p front q ∧
    q ≠ .finished ∧ Spells ValidText e piece ∧ q.advance e = none

def Passes (p : Nesting) (bytes : Bytes) (q : Nesting) : Prop :=
  Run ValidText p bytes q ∨ Strays p bytes

theorem Strays.behind {p q : Nesting} {a b : Bytes} (ha : Run ValidText p a q)
    (hb : Strays q b) : Strays p (a ++ b) := by
  obtain ⟨stray, front, e, piece, back, rfl, hfront, hrest⟩ := hb
  exact ⟨stray, a ++ front, e, piece, back, (List.append_assoc ..).symm, ha.append hfront, hrest⟩

theorem Passes.append {p q r : Nesting} {a b : Bytes} (ha : Passes p a q) (hb : Passes q b r) :
    Passes p (a ++ b) r := by
  rcases ha with hrun | ⟨stray, front, e, piece, back, rfl, hrest⟩
  · rcases hb with hrun' | hstrays
    · exact .inl (hrun.append hrun')
    · exact .inr (hstrays.behind hrun)
  · exact .inr ⟨stray, front, e, piece, back ++ b, by simp, hrest⟩

section Steps

variable {base c c' n due : Nat} {cs : List Nat} {frames : List Frame} {p q : Nesting}
  {owed owed' : Owed} {e : Element}

theorem Near.ne_finished (hnear : Near base c cs due frames) (hmore : ¬ (c = 0 ∧ cs = [])) :
    (⟨due, frames⟩ : Nesting) ≠ .finished := by
  intro hfinished
  cases hfinished
  cases hnear with
  | last hdue =>
    refine hmore ⟨?_, rfl⟩
    omega

/-- An item begins in the nesting. In the walk one item may be forgotten if
none was wanted. -/
theorem Near.begin (hnear : Near base c cs due frames) (hmore : ¬ (c = 0 ∧ cs = []))
    (hbegin : Nesting.begin ⟨due, frames⟩ n = some q) (hle : c' ≤ c - 1 + n)
    (hlt : c - 1 + n ≤ c' + 1) (hexact : 0 < c → c' = c - 1 + n) :
    Near base c' cs q.due q.frames := by
  cases hnear with
  | last hdue =>
    have hc : 0 < c := by
      by_contra hzero
      exact hmore ⟨by omega, rfl⟩
    have hall := hexact hc
    cases due with
    | zero => omega
    | succ due =>
      cases hbegin
      exact .last (show due + n = c' + base by omega)
  | inside hle' hlt' hnear =>
    cases due with
    | zero =>
      -- The item stands directly in an open one.
      cases hbegin
      exact .inside (show c' ≤ n by omega) (show n ≤ c' + 1 by omega) hnear
    | succ due =>
      cases hbegin
      by_cases hc : 0 < c
      · have hall := hexact hc
        exact .inside (show c' ≤ due + n by omega) (show due + n ≤ c' + 1 by omega) hnear
      · -- The item that is due here had been forgotten, so another may be now.
        exact .inside (show c' ≤ due + n by omega) (show due + n ≤ c' + 1 by omega) hnear

/-- One element of the walk, beside the element that the nesting sees. -/
theorem Near.step (howes : Owes owed c cs) (hnear : Near base c cs due frames)
    (howed : ¬ owed.settled = true) (heffect : Effect owed e owed')
    (hcounts : owed'.counts + 1 < 2 ^ 64 - 1) (hwaits : owed'.waits + 1 < 2 ^ 64 - 1)
    (hadvance : Nesting.advance ⟨due, frames⟩ e = some q) :
    ∃ c' cs', Owes owed' c' cs' ∧ Near base c' cs' q.due q.frames := by
  have hmore : ¬ (c = 0 ∧ cs = []) := fun h => howed (howes.settled_iff.2 h)
  cases heffect with
  | leaf =>
    exact ⟨c - 1, cs, howes.completeItem,
      hnear.begin hmore hadvance (by omega) (by omega) (fun _ => rfl)⟩
  | reserved => cases hadvance
  | @holder n k hcount =>
    have hopen := (owed.openCounted k).counts_completeItem
    have hk : k = n := by
      have := owed.counts_openCounted k
      unfold saturate at this hcount
      omega
    subst hk
    by_cases hpos : 0 < k
    · obtain ⟨c', hnext, hle, hlt, hexact⟩ := howes.openCounted hpos (by omega)
      refine ⟨c' - 1, cs, hnext.completeItem, hnear.begin hmore hadvance ?_ ?_ ?_⟩
      all_goals omega
    · obtain rfl : k = 0 := by omega
      exact ⟨c - 1, cs, howes.completeItem,
        hnear.begin hmore hadvance (by omega) (by omega) (fun _ => rfl)⟩
  | tag => exact ⟨c, cs, howes, hnear.begin hmore hadvance (by omega) (by omega) (by omega)⟩
  | opened pairs =>
    obtain ⟨next, hbegin, rfl⟩ := Option.map_eq_some_iff.1 hadvance
    obtain ⟨c', hc', hnext⟩ := howes.openUncounted (by rw [← Owed.waits_completeItem]; omega)
    have hzero : c' - 1 = 0 := by omega
    have hinner : Near base (c - 1) cs next.due next.frames :=
      hnear.begin hmore hbegin (by omega) (by omega) (fun _ => rfl)
    have hdone := hnext.completeItem
    rw [hzero] at hdone
    exact ⟨0, _, hdone, .inside (Nat.le_refl 0) (Nat.zero_le _) hinner⟩
  | stop =>
    cases hnear with
    | last => cases due <;> cases hadvance
    | inside hle hlt hnear =>
      cases due with
      | succ due => cases hadvance
      | zero =>
        simp only [Nesting.advance, Nesting.close] at hadvance
        split at hadvance
        · cases hadvance
        · cases hadvance
          obtain rfl : c = 0 := Nat.le_zero.1 hle
          obtain ⟨c', hc', hnext⟩ := howes.takeBreak
          have hdone := hnext.completeItem
          rw [hc'] at hdone
          exact ⟨_, _, hdone, hnear⟩

/-- The walk takes what the grammar takes, or bytes that leave the grammar. By
induction on the elements; behind one that cannot follow nothing more is
claimed. -/
theorem settle_eq_ok {bytes rest : Bytes} (hlen : bytes.length < 2 ^ 64 - 1)
    (h : settle owed bytes = .ok rest) (howes : Owes owed c cs)
    (hnear : Near base c cs due frames) :
    ∃ taken, bytes = taken ++ rest ∧ Passes ⟨due, frames⟩ taken ⟨base, []⟩ := by
  fun_induction settle owed bytes generalizing c cs due frames with
  | case1 owed bytes hsettled =>
    cases h
    obtain ⟨rfl, rfl⟩ := howes.settled_iff.1 hsettled
    cases hnear with
    | last hdue =>
      rw [Nat.zero_add] at hdue
      subst hdue
      exact ⟨[], rfl, .inl (.refl _)⟩
  | case2 => cases h
  | case3 owed bytes howed owed' mid hmid ih =>
    have hshort := element_length hmid
    obtain ⟨e, piece, rfl, hspells, heffect⟩ := element_eq_ok hmid
    cases hadvance : Nesting.advance ⟨due, frames⟩ e with
    | none =>
      obtain ⟨back, rfl, -⟩ := localPass_settle owed' mid rest h
      have hmore : ¬ (c = 0 ∧ cs = []) := fun hdone => howed (howes.settled_iff.2 hdone)
      refine ⟨piece ++ back, (List.append_assoc ..).symm, .inr ?_⟩
      exact ⟨_, [], e, piece, back, rfl, .refl _, hnear.ne_finished hmore, hspells, hadvance⟩
    | some q =>
      obtain ⟨hcounts, hwaits⟩ := settle_bound (by omega) h
      obtain ⟨c', cs', howes', hnear'⟩ :=
        hnear.step howes howed heffect (by omega) (by omega) hadvance
      obtain ⟨taken, rfl, hpasses⟩ := ih (by omega) h howes' hnear'
      have hpiece : Passes ⟨due, frames⟩ piece q := .inl (.one hspells hadvance)
      exact ⟨piece ++ taken, (List.append_assoc ..).symm, hpiece.append hpasses⟩

/-- Passing over an item takes one item of the grammar, or bytes that leave it. -/
theorem skip_eq_ok {bytes rest : Bytes} (hlen : bytes.length < 2 ^ 64 - 1)
    (h : skip bytes = .ok rest) (base : Nat) :
    ∃ taken, bytes = taken ++ rest ∧ Passes ⟨base + 1, []⟩ taken ⟨base, []⟩ := by
  have howes : Owes .start 1 [] := @Owes.counting 1 0 (by decide)
  exact settle_eq_ok hlen h howes (.last (Nat.add_comm base 1))

end Steps

/-- Bytes that stray from one item leave the grammar with a break, or with the
second byte of a simple value that belongs in one. -/
theorem Strays.departs {bytes : Bytes} (h : Strays ⟨1, []⟩ bytes) :
    ∃ front byte, Departs bytes front byte ∧
      (byte = stopByte ∨ AwaitsSimple front ∧ byte.toNat < 0x20) := by
  obtain ⟨q, front, e, piece, back, rfl, hrun, hq, hspells, hadvance⟩ := h
  have hfront : Run (fun _ => True) ⟨1, []⟩ front q := hrun.mono fun _ _ => trivial
  obtain ⟨next, hbegin⟩ := Nesting.exists_begin hq
  have hleaf : Leaf (fun _ => True) [0xF8, 0x20] :=
    .simple (head_reserved 0x20) fun _ => by decide
  have hviable : Viable (front ++ [0xF8, 0x20]) :=
    (hfront.append (.one (.leaf hleaf) hbegin)).viable
  rcases Nesting.eq_of_advance_eq_none hq hadvance with rfl | rfl
  · cases hspells with
    | @reserved value hvalue =>
      rw [List.append_cons] at hviable
      have hsmall : ∀ value : UInt8, value.toNat < 0x20 →
          ¬ Viable (front ++ [0xF8] ++ [value]) := by
        intro value hvalue
        rw [List.append_assoc]
        exact hrun.not_viable (@Spells.reserved ValidText value hvalue) hadvance
      refine ⟨front ++ [0xF8], value, ⟨⟨back, by simp⟩, hviable.of_append, ?_, ?_⟩, .inr ?_⟩
      · intro hwhole
        exact hwhole.not_viable_append (List.cons_ne_nil _ _) hviable
      · exact hsmall value hvalue
      · exact ⟨⟨by simp, hviable, hsmall⟩, hvalue⟩
  · cases hspells with
    | stop =>
      refine ⟨front, stopByte, ⟨⟨back, rfl⟩, hfront.viable, ?_, ?_⟩, .inl rfl⟩
      · intro hwhole
        exact hwhole.not_viable_append (List.cons_ne_nil _ _) hviable
      · exact hrun.not_viable (@Spells.stop ValidText) hadvance

end Provenance.Cbor
