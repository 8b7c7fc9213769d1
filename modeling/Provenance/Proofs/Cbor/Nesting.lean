import Provenance.Proofs.Cbor.Elements

/-!
How far some elements have come in an item. What is still to come behind them
is a number of items, and for each open item around them what is due once it
has ended. This is exact: the elements that bring it down to nothing spell the
items of the grammar and nothing else. So the first byte with which bytes
leave the grammar is well defined.
-/

namespace Provenance.Cbor

structure Frame where
  pairs : Bool
  odd : Bool
  resume : Nat
  deriving DecidableEq, Repr

/-- How many items are due before anything else, and the open items around. -/
structure Nesting where
  due : Nat
  frames : List Frame
  deriving DecidableEq, Repr

namespace Nesting

def finished : Nesting := ⟨0, []⟩

def begin (p : Nesting) (items : Nat) : Option Nesting :=
  match p with
  | ⟨due + 1, frames⟩ => some ⟨due + items, frames⟩
  | ⟨0, frame :: frames⟩ => some ⟨items, { frame with odd := !frame.odd } :: frames⟩
  | ⟨0, []⟩ => none

def close : Nesting → Option Nesting
  | ⟨0, frame :: frames⟩ => if frame.pairs && frame.odd then none else some ⟨frame.resume, frames⟩
  | _ => none

def advance (p : Nesting) : Element → Option Nesting
  | .leaf => p.begin 0
  | .reserved => none
  | .holder items => p.begin items
  | .opened pairs => (p.begin 0).map fun q => ⟨0, ⟨pairs, false, q.due⟩ :: q.frames⟩
  | .stop => p.close

def pass : Nat → Nesting → Option Nesting
  | 0, p => some p
  | n + 1, p => p.begin 0 >>= pass n

theorem begin_eq_map (p : Nesting) (items : Nat) :
    p.begin items = (p.begin 0).map fun q => ⟨q.due + items, q.frames⟩ := by
  obtain ⟨_ | due, _ | ⟨frame, frames⟩⟩ := p <;> simp [begin]

/-- Where something may follow, an item may. -/
theorem exists_begin {p : Nesting} (h : p ≠ finished) : ∃ q, p.begin 0 = some q := by
  obtain ⟨_ | due, _ | ⟨frame, frames⟩⟩ := p
  · exact absurd rfl h
  all_goals exact ⟨_, rfl⟩

/-- Where something may follow, only these two elements may be out of place. -/
theorem eq_of_advance_eq_none {p : Nesting} {e : Element} (hp : p ≠ finished)
    (h : p.advance e = none) : e = .reserved ∨ e = .stop := by
  obtain ⟨q, hbegin⟩ := exists_begin hp
  cases e with
  | leaf =>
    rw [advance, hbegin] at h
    cases h
  | reserved => exact .inl rfl
  | holder items =>
    rw [advance, begin_eq_map, hbegin] at h
    cases h
  | opened pairs =>
    rw [advance, hbegin] at h
    cases h
  | stop => exact .inr rfl

/-- What a holder owes comes before what was due. -/
theorem pass_due (n due : Nat) (frames : List Frame) :
    pass n ⟨due + n, frames⟩ = some ⟨due, frames⟩ := by
  induction n with
  | zero => rfl
  | succ n ih => exact ih

/-- Items directly inside an open one change nothing but whether they are odd. -/
theorem pass_frame (n : Nat) (pairs odd : Bool) (resume : Nat) (frames : List Frame) :
    pass n ⟨0, ⟨pairs, odd, resume⟩ :: frames⟩ =
      some ⟨0, ⟨pairs, if n % 2 = 1 then !odd else odd, resume⟩ :: frames⟩ := by
  induction n generalizing odd with
  | zero => rfl
  | succ n ih =>
    rw [pass, begin, Option.bind_eq_bind, Option.bind_some, ih]
    by_cases hn : n % 2 = 1
    · have hnext : ¬ (n + 1) % 2 = 1 := by omega
      rw [if_pos hn, if_neg hnext, Bool.not_not]
    · have hnext : (n + 1) % 2 = 1 := by omega
      rw [if_neg hn, if_pos hnext]

end Nesting

inductive Run (text : Bytes → Prop) : Nesting → Bytes → Nesting → Prop
  | refl (p : Nesting) : Run text p [] p
  | step {p q r : Nesting} {e : Element} {bytes rest : Bytes} (hspells : Spells text e bytes)
      (hadvance : p.advance e = some q) (hrest : Run text q rest r) : Run text p (bytes ++ rest) r

section Runs

variable {text text' : Bytes → Prop} {p q r : Nesting} {a b bytes rest : Bytes} {e : Element}

theorem Run.one (hspells : Spells text e bytes) (hadvance : p.advance e = some q) :
    Run text p bytes q := by
  have h := Run.step hspells hadvance (.refl q)
  rwa [List.append_nil] at h

theorem Run.append (ha : Run text p a q) (hb : Run text q b r) : Run text p (a ++ b) r := by
  induction ha with
  | refl => exact hb
  | step hspells hadvance _ ih =>
    rw [List.append_assoc]
    exact .step hspells hadvance (ih hb)

/-- Items of the grammar pass through any state that has room for them. By
induction on the items: what one holds is passed inside, so that it counts as
one outside. -/
theorem Items.run {n : Nat} (h : Items text n bytes) (hpass : p.pass n = some q) :
    Run text p bytes q := by
  induction h generalizing p q with
  | nil =>
    cases hpass
    exact .refl p
  | leaf hitem _ ih =>
    obtain ⟨next, hbegin, hrest⟩ := Option.bind_eq_some_iff.1 hpass
    exact .step (.leaf hitem) hbegin (ih hrest)
  | @holder _ k head inner rest hhead _ _ ihinner ih =>
    obtain ⟨next, hbegin, hrest⟩ := Option.bind_eq_some_iff.1 hpass
    have hadvance : p.advance (.holder k) = some ⟨next.due + k, next.frames⟩ := by
      rw [Nesting.advance, Nesting.begin_eq_map, hbegin, Option.map_some]
    have hinner := ihinner (Nesting.pass_due k next.due next.frames)
    exact .step (.holder hhead) hadvance (hinner.append (ih hrest))
  | @openArray _ k inner rest _ _ ihinner ih =>
    obtain ⟨next, hbegin, hrest⟩ := Option.bind_eq_some_iff.1 hpass
    have hadvance : p.advance (.opened false) =
        some ⟨0, ⟨false, false, next.due⟩ :: next.frames⟩ := by
      rw [Nesting.advance, hbegin, Option.map_some]
    have hinner := ihinner (Nesting.pass_frame k false false next.due next.frames)
    exact .step .openArray hadvance (hinner.append (.step .stop rfl (ih hrest)))
  | @openMap _ k inner rest _ _ ihinner ih =>
    obtain ⟨next, hbegin, hrest⟩ := Option.bind_eq_some_iff.1 hpass
    have hadvance : p.advance (.opened true) =
        some ⟨0, ⟨true, false, next.due⟩ :: next.frames⟩ := by
      rw [Nesting.advance, hbegin, Option.map_some]
    have hinner := ihinner (Nesting.pass_frame (2 * k) true false next.due next.frames)
    have heven : ¬ (2 * k) % 2 = 1 := by omega
    rw [if_neg heven] at hinner
    exact .step .openMap hadvance (hinner.append (.step .stop rfl (ih hrest)))

/-- The bytes are what a state of nesting still wants: the items that are due,
then the rest of each open item with its break and what is due behind it. -/
def Closes (text : Bytes → Prop) (due : Nat) : List Frame → Bytes → Prop
  | [], bytes => Items text due bytes
  | frame :: frames, bytes => ∃ k front inner back,
      bytes = front ++ (inner ++ stopByte :: back) ∧ Items text due front ∧ Items text k inner ∧
        (frame.pairs = true → (k % 2 = 1 ↔ frame.odd = true)) ∧ Closes text frame.resume frames back

theorem Closes.split {due n : Nat} {frames : List Frame} (h : Closes text (n + due) frames bytes) :
    ∃ front back, bytes = front ++ back ∧ Items text n front ∧ Closes text due frames back := by
  cases frames with
  | nil => exact Items.split h
  | cons frame frames =>
    obtain ⟨k, front, inner, back, rfl, hfront, hinner, hodd, hback⟩ := h
    obtain ⟨first, second, rfl, hfirst, hsecond⟩ := hfront.split
    exact ⟨first, second ++ (inner ++ stopByte :: back), by simp, hfirst,
      k, second, inner, back, rfl, hsecond, hinner, hodd, hback⟩

/-- An item in front of what closes the state behind it. -/
theorem Closes.cons (hbegin : p.begin 0 = some q) (hitem : Items text 1 a)
    (h : Closes text q.due q.frames b) : Closes text p.due p.frames (a ++ b) := by
  obtain ⟨_ | due, _ | ⟨frame, frames⟩⟩ := p
  · cases hbegin
  · -- The item stands directly in an open one.
    cases hbegin
    obtain ⟨k, front, inner, back, rfl, hfront, hinner, hodd, hback⟩ := h
    obtain rfl : front = [] := by
      cases hfront
      rfl
    refine ⟨1 + k, [], a ++ inner, back, by simp, .nil, hitem.append hinner, ?_, hback⟩
    intro hpairs
    have := hodd hpairs
    cases hframe : frame.odd
    · simp only [hframe, Bool.not_false, iff_true] at this
      simp only [Bool.false_eq_true, iff_false]
      omega
    · simp only [hframe, Bool.not_true, Bool.false_eq_true, iff_false] at this
      simp only [iff_true]
      omega
  · cases hbegin
    have hall := hitem.append h
    rwa [Nat.add_comm] at hall
  · cases hbegin
    obtain ⟨k, front, inner, back, rfl, hfront, hinner, hodd, hback⟩ := h
    refine ⟨k, a ++ front, inner, back, by simp, ?_, hinner, hodd, hback⟩
    have hall := hitem.append hfront
    rwa [Nat.add_comm] at hall

theorem exists_begin_of_begin {n : Nat} (h : p.begin n = some q) :
    ∃ next, p.begin 0 = some next ∧ q = ⟨n + next.due, next.frames⟩ := by
  rw [Nesting.begin_eq_map, Option.map_eq_some_iff] at h
  obtain ⟨next, hbegin, rfl⟩ := h
  exact ⟨next, hbegin, by rw [Nat.add_comm]⟩

/-- What is read until nothing is wanted any more is what was wanted. By
induction on the elements: each of them is put in front of what closes the
state behind it. -/
theorem Run.closes (h : Run text p bytes .finished) : Closes text p.due p.frames bytes := by
  generalize hend : Nesting.finished = r at h
  induction h with
  | refl p =>
    subst hend
    exact Items.nil
  | @step p q r e piece rest hspells hadvance _ ih =>
    have hrest := ih hend
    cases hspells with
    | leaf hleaf =>
      have hitem := Items.leaf hleaf .nil
      rw [List.append_nil] at hitem
      exact hrest.cons hadvance hitem
    | reserved => cases hadvance
    | @holder n _ hhead =>
      obtain ⟨next, hbegin, rfl⟩ := exists_begin_of_begin hadvance
      obtain ⟨inner, back, rfl, hinner, hback⟩ := hrest.split
      have hitem := Items.holder hhead hinner .nil
      rw [List.append_nil] at hitem
      rw [← List.append_assoc]
      exact hback.cons hbegin hitem
    | openArray =>
      obtain ⟨next, hbegin, rfl⟩ := Option.map_eq_some_iff.1 hadvance
      obtain ⟨k, front, inner, back, rfl, hfront, hinner, -, hback⟩ := hrest
      have hitem := Items.openArray (hfront.append hinner) .nil
      have := hback.cons hbegin hitem
      simpa using this
    | openMap =>
      obtain ⟨next, hbegin, rfl⟩ := Option.map_eq_some_iff.1 hadvance
      obtain ⟨k, front, inner, back, rfl, hfront, hinner, hodd, hback⟩ := hrest
      have hk : k = 2 * (k / 2) := by
        have := hodd rfl
        simp only [Bool.false_eq_true, iff_false] at this
        omega
      have hfront' : front = [] := by
        cases hfront
        rfl
      subst hfront'
      rw [hk] at hinner
      have hitem := Items.openMap hinner .nil
      have := hback.cons hbegin hitem
      simpa using this
    | stop =>
      obtain ⟨_ | due, _ | ⟨frame, frames⟩⟩ := p
      · cases hadvance
      · simp only [Nesting.advance, Nesting.close] at hadvance
        split at hadvance
        · cases hadvance
        · rename_i hodd
          cases hadvance
          refine ⟨0, [], [], rest, rfl, .nil, .nil, ?_, hrest⟩
          intro hpairs
          simpa [hpairs] using hodd
      · cases hadvance
      · cases hadvance

/-- The grammar and the nesting agree on what items are. -/
theorem items_iff_run {n : Nat} : Items text n bytes ↔ Run text ⟨n, []⟩ bytes .finished := by
  constructor
  · intro h
    refine h.run ?_
    have hpass := Nesting.pass_due n 0 []
    rwa [Nat.zero_add] at hpass
  · intro h
    exact h.closes

/-- Some items, so many of them. -/
theorem exists_items (text : Bytes → Prop) (n : Nat) : ∃ bytes, Items text n bytes := by
  induction n with
  | zero => exact ⟨[], .nil⟩
  | succ n ih =>
    obtain ⟨bytes, hbytes⟩ := ih
    exact ⟨[0x00] ++ bytes, .leaf (.number (by decide) (@Head.short 0 0 (by decide))) hbytes⟩

/-- From any state there is a way to the end: the items that are due, one more
where a map lacks a value, and the break. -/
theorem exists_run_finished (text : Bytes → Prop) (p : Nesting) :
    ∃ back, Run text p back .finished := by
  obtain ⟨due, frames⟩ := p
  induction frames generalizing due with
  | nil =>
    obtain ⟨bytes, hbytes⟩ := exists_items text due
    exact ⟨bytes, items_iff_run.1 hbytes⟩
  | cons frame frames ih =>
    obtain ⟨front, hfront⟩ := exists_items text due
    obtain ⟨value, hvalue⟩ : ∃ value, Run text ⟨0, frame :: frames⟩ value
        ⟨0, ⟨frame.pairs, false, frame.resume⟩ :: frames⟩ := by
      obtain ⟨pairs, odd, resume⟩ := frame
      cases odd with
      | false => exact ⟨[], .refl _⟩
      | true =>
        obtain ⟨bytes, hbytes⟩ := exists_items text 1
        exact ⟨bytes, hbytes.run rfl⟩
    obtain ⟨back, hback⟩ := ih frame.resume
    have hdue := Nesting.pass_due due 0 (frame :: frames)
    rw [Nat.zero_add] at hdue
    have hstop : Nesting.advance ⟨0, ⟨frame.pairs, false, frame.resume⟩ :: frames⟩ .stop =
        some ⟨frame.resume, frames⟩ := by
      simp [Nesting.advance, Nesting.close]
    exact ⟨_, (hfront.run hdue).append (hvalue.append (.step .stop hstop hback))⟩

theorem Spells.ne_nil (h : Spells text e bytes) : bytes ≠ [] := by
  rintro rfl
  have hnext := h.nextElement_append []
  cases hnext

/-- The first element of a run is the one that its bytes begin with. -/
theorem Run.uncons (h : Run text' p (a ++ b) r) (ha : Spells text e a) :
    ∃ q, p.advance e = some q ∧ Run text' q b r := by
  generalize hbytes : a ++ b = bytes at h
  cases h with
  | refl => exact absurd (List.append_eq_nil_iff.1 hbytes).1 ha.ne_nil
  | step hspells hadvance hrest =>
    obtain ⟨rfl, -, rfl⟩ := ha.unique hspells hbytes
    exact ⟨_, hadvance, hrest⟩

/-- A run over more bytes goes on from where a run over the first of them has
come to. -/
theorem Run.cancel (ha : Run text p a q) (h : Run text' p (a ++ b) r) : Run text' q b r := by
  induction ha with
  | refl => exact h
  | step hspells hadvance _ ih =>
    rw [List.append_assoc] at h
    obtain ⟨next, hnext, hrest⟩ := h.uncons hspells
    rw [hadvance] at hnext
    cases hnext
    exact ih hrest

theorem Run.mono (htext : ∀ content, text content → text' content) (h : Run text p a q) :
    Run text' p a q := by
  induction h with
  | refl p => exact .refl p
  | step hspells hadvance _ ih => exact .step (hspells.mono htext) hadvance ih

/-- What has been read without fault is the beginning of an item. -/
theorem Run.viable (h : Run (fun _ => True) ⟨1, []⟩ a q) : Viable a := by
  obtain ⟨back, hback⟩ := exists_run_finished (fun _ => True) q
  exact ⟨back, items_iff_run.2 (h.append hback)⟩

/-- An element that cannot follow ends what may be the beginning of an item. -/
theorem Run.not_viable (h : Run text ⟨1, []⟩ a q) (hb : Spells text' e b)
    (hadvance : q.advance e = none) : ¬ Viable (a ++ b) := by
  rintro ⟨back, hback⟩
  have hall := items_iff_run.1 hback
  rw [List.append_assoc] at hall
  obtain ⟨next, hnext, -⟩ := (h.cancel hall).uncons hb
  rw [hadvance] at hnext
  cases hnext

/-- No well-formed item is the beginning of another one. -/
theorem WellFormed.not_viable_append (h : WellFormed a) (hb : b ≠ []) : ¬ Viable (a ++ b) := by
  rintro ⟨back, hback⟩
  have hall := items_iff_run.1 hback
  rw [List.append_assoc] at hall
  have hrest := (items_iff_run.1 h).cancel hall
  generalize hbytes : b ++ back = bytes at hrest
  generalize hstart : Nesting.finished = p at hrest
  cases hrest with
  | refl => exact hb (List.append_eq_nil_iff.1 hbytes).1
  | @step p q r e _ _ hspells hadvance hrest =>
    subst hstart
    cases e <;> cases hadvance

end Runs

end Provenance.Cbor
