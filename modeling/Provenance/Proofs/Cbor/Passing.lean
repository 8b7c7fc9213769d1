import Provenance.Proofs.Cbor.Walk

/-!
The walk over an item passes over every well-formed one whose texts are valid,
and takes exactly its bytes. It reads each element that the grammar has, and as
long as the nesting has something to come the walk owes something: it may have
forgotten an item inside an open one, but the break of that is still due. What
is to come is paid with the bytes of the item, so no count is cut off.
-/

namespace Provenance.Cbor

section Elements

variable {kind n : Nat} {head bytes : Bytes}

theorem toNat_eq_major_low (head : UInt8) : head.toNat = 32 * major head + low head := by
  unfold major low
  omega

theorem Head.passHead_append (h : Head kind n head) (hkind : kind < 8) (rest : Bytes) :
    passHead (head ++ rest) = .ok rest := by
  obtain ⟨first, digits, rfl, -, -, -, hargument⟩ := h.exists_first hkind
  rw [List.cons_append, passHead, hargument]
  rfl

theorem Head.container_append (h : Head kind n head) (hkind : kind < 8) (rest : Bytes) :
    container kind (head ++ rest) = .ok (some n, rest) := by
  obtain ⟨first, digits, rfl, hmajor, hlow, -, hargument⟩ := h.exists_first hkind
  have hne : low first ≠ openEnded := by
    unfold openEnded
    omega
  rw [List.cons_append, container, if_pos hmajor, if_neg hne, hargument]
  rfl

/-- An item that announces its length shows in its first byte what it is. -/
theorem Head.nextKind_append {shown : Kind} (h : Head kind n head)
    (hkind : (kind, shown) ∈ [(2, Kind.bytes), (3, .text), (5, .map)]) (rest : Bytes) :
    nextKind (head ++ rest) = .ok shown := by
  have hcases : kind = 2 ∧ shown = .bytes ∨ kind = 3 ∧ shown = .text ∨ kind = 5 ∧ shown = .map := by
    simpa using hkind
  obtain ⟨first, digits, rfl, hmajor, hlow, -, -⟩ := h.exists_first (by omega)
  have hfirst := toNat_eq_major_low first
  rw [List.cons_append, nextKind]
  simp only [kindOf]
  rcases hcases with ⟨rfl, rfl⟩ | ⟨rfl, rfl⟩ | ⟨rfl, rfl⟩
  · iterate 9 rw [if_neg (by omega)]
    rw [if_pos (by omega)]
  · iterate 11 rw [if_neg (by omega)]
    rw [if_pos (by omega)]
  · iterate 15 rw [if_neg (by omega)]
    rw [if_pos (by omega)]

theorem Head.textString_append {content : Bytes} {text : String}
    (h : Head 3 content.length head) (htext : Utf8.decode? content = some text) (rest : Bytes) :
    textString (head ++ (content ++ rest)) = .ok (text, rest) := by
  simp only [textString, h.definite_append (by decide), htext, bind, Except.bind]

/-- Two heads of the same bytes are one. -/
theorem Head.unique {m : Nat} {first inner rest : Bytes} (h : Head kind n head)
    (hfirst : Head kind m first) (hkind : kind < 8) (hbytes : head ++ inner = first ++ rest) :
    m = n ∧ first = head ∧ rest = inner := by
  have hread := h.container_append hkind inner
  rw [hbytes, hfirst.container_append hkind rest] at hread
  obtain ⟨rfl, rfl⟩ : m = n ∧ rest = inner := by simpa using hread
  exact ⟨rfl, (List.append_cancel_right hbytes).symm, rfl⟩

/-- A valid text is read in front of anything. -/
theorem Chunk.textString_append (h : Chunk ValidText 3 bytes) :
    ∃ text, ∀ rest, textString (bytes ++ rest) = .ok (text, rest) := by
  obtain ⟨-, -, content, -, -, htext, hdefinite⟩ := h.definite_append (by decide)
  obtain ⟨text, hdecode⟩ := Option.isSome_iff_exists.1 (htext rfl)
  refine ⟨text, fun rest => ?_⟩
  simp only [textString, hdefinite, hdecode, bind, Except.bind]

theorem Chunk.passDefinite_append (h : Chunk ValidText kind bytes) (hkind : kind < 8)
    (rest : Bytes) : passDefinite kind (bytes ++ rest) = .ok rest := by
  unfold passDefinite
  split
  · rename_i htext
    subst htext
    obtain ⟨text, htext⟩ := h.textString_append
    rw [htext]
    rfl
  · obtain ⟨-, -, content, -, -, -, hdefinite⟩ := h.definite_append hkind
    rw [hdefinite]
    rfl

theorem Chunks.passChunks_append (h : Chunks ValidText kind bytes) (hkind : kind < 8)
    (rest : Bytes) : passChunks kind (bytes ++ stopByte :: rest) = .ok rest := by
  induction h with
  | nil =>
    rw [List.nil_append, passChunks, if_pos (by decide)]
  | @cons chunk later hchunk _ ih =>
    obtain ⟨first, tail, -, rfl, hlow, -, -⟩ := hchunk.definite_append hkind
    have hnext := hchunk.passDefinite_append hkind (later ++ stopByte :: rest)
    have hfirst : ¬ first.toNat = 0xFF := by
      have := toNat_eq_major_low first
      unfold major at this
      omega
    rw [List.append_assoc, List.cons_append, passChunks, if_neg hfirst]
    rw [List.cons_append] at hnext
    split
    · simp_all
    · rename_i rest' heq
      rw [hnext] at heq
      cases heq
      exact ih

/-- A string is read by the reader of its major type. -/
theorem exists_element_of_passString {first : UInt8} {tail : Bytes}
    (hkind : kind = 2 ∨ kind = 3) (hmajor : major first = kind) (owed : Owed)
    (hpass : ∃ rest, passString kind (first :: tail) = .ok rest) :
    ∃ result, element owed (first :: tail) = .ok result := by
  obtain ⟨rest, hpass⟩ := hpass
  have hfirst := toNat_eq_major_low first
  have hlow : low first < 32 := Nat.mod_lt _ (by decide)
  rcases hkind with rfl | rfl
  · rw [element, if_neg (by omega), if_pos (by omega), hpass]
    exact ⟨_, rfl⟩
  · rw [element, if_neg (by omega), if_neg (by omega), if_pos (by omega), hpass]
    exact ⟨_, rfl⟩

theorem Leaf.exists_element (h : Leaf ValidText bytes) (owed : Owed) (rest : Bytes) :
    ∃ result, element owed (bytes ++ rest) = .ok result := by
  cases h with
  | @number kind n _ hkind hhead =>
    have hpass := hhead.passHead_append (by omega) rest
    obtain ⟨first, digits, rfl, hmajor, hlow, -, -⟩ := hhead.exists_first (by omega)
    have hfirst := toNat_eq_major_low first
    rw [List.cons_append] at hpass ⊢
    rw [element, if_pos (by omega), hpass]
    exact ⟨_, rfl⟩
  | @string kind _ hkind hchunk =>
    have hpass := hchunk.passDefinite_append (by omega) rest
    obtain ⟨hhead, -⟩ := hchunk
    obtain ⟨first, digits, rfl, hmajor, hlow, -, -⟩ := hhead.exists_first (by omega)
    have hne : low first ≠ openEnded := by
      unfold openEnded
      omega
    refine exists_element_of_passString hkind hmajor owed ⟨rest, ?_⟩
    rw [passString, if_neg fun hopen => hne hopen.2]
    exact hpass
  | @openString kind chunks hkind hchunks =>
    have hpass := hchunks.passChunks_append (by omega) rest
    obtain ⟨hmajor, hlow⟩ := major_low_openHead (show kind < 8 by omega)
    rw [List.cons_append, List.append_assoc, List.singleton_append]
    refine exists_element_of_passString hkind hmajor owed ⟨rest, ?_⟩
    rw [passString, if_pos ⟨hmajor, hlow⟩]
    exact hpass
  | @simple n _ hhead hvalue =>
    have hpass := hhead.passHead_append (by omega) rest
    obtain ⟨first, digits, rfl, hmajor, hlow, -, -⟩ := hhead.exists_first (by omega)
    have hfirst := toNat_eq_major_low first
    rw [List.cons_append] at hpass ⊢
    rw [element, if_pos (by omega), hpass]
    exact ⟨_, rfl⟩

theorem Holder.exists_element (h : Holder n bytes) (owed : Owed) (rest : Bytes) :
    ∃ result, element owed (bytes ++ rest) = .ok result := by
  cases h with
  | array hhead =>
    have hcontainer := hhead.container_append (by decide) rest
    obtain ⟨first, digits, rfl, hmajor, hlow, -, -⟩ := hhead.exists_first (by decide)
    have hfirst := toNat_eq_major_low first
    rw [List.cons_append] at hcontainer ⊢
    rw [element, if_neg (by omega), if_neg (by omega), if_neg (by omega), if_pos (by omega),
      hcontainer]
    exact ⟨_, rfl⟩
  | map hhead =>
    have hcontainer := hhead.container_append (by decide) rest
    obtain ⟨first, digits, rfl, hmajor, hlow, -, -⟩ := hhead.exists_first (by decide)
    have hfirst := toNat_eq_major_low first
    rw [List.cons_append] at hcontainer ⊢
    rw [element, if_neg (by omega), if_neg (by omega), if_neg (by omega), if_neg (by omega),
      if_pos (by omega), hcontainer]
    exact ⟨_, rfl⟩
  | tag hhead =>
    have hpass := hhead.passHead_append (by decide) rest
    obtain ⟨first, digits, rfl, hmajor, hlow, -, -⟩ := hhead.exists_first (by decide)
    have hfirst := toNat_eq_major_low first
    rw [List.cons_append] at hpass ⊢
    rw [element, if_neg (by omega), if_neg (by omega), if_neg (by omega), if_neg (by omega),
      if_neg (by omega), if_pos (by omega), hpass]
    exact ⟨_, rfl⟩

/-- The walk reads whatever element the bytes begin with. That it takes just the
bytes of the element is known from what it takes at all. -/
theorem Spells.element_append {e : Element} (h : Spells ValidText e bytes) (he : e ≠ .reserved)
    (owed : Owed) (rest : Bytes) :
    ∃ owed', element owed (bytes ++ rest) = .ok (owed', rest) ∧ Effect owed e owed' := by
  have hread : ∃ result, element owed (bytes ++ rest) = .ok result := by
    cases h with
    | leaf hleaf => exact hleaf.exists_element owed rest
    | reserved => exact absurd rfl he
    | holder hhead => exact hhead.exists_element owed rest
    | openArray => exact ⟨_, rfl⟩
    | openMap => exact ⟨_, rfl⟩
    | stop => exact ⟨_, rfl⟩
  obtain ⟨⟨owed', mid⟩, hread⟩ := hread
  obtain ⟨e', piece, hbytes, hspells, heffect⟩ := element_eq_ok hread
  obtain ⟨rfl, rfl, rfl⟩ := h.unique hspells hbytes
  exact ⟨owed', hread, heffect⟩

end Elements

/-- The bytes that are still to come, at the least: one for each item that is due
and one for each break. -/
def Nesting.wants (p : Nesting) : Nat :=
  p.due + (p.frames.map fun frame => frame.resume + 1).sum

section Passing

variable {owed owed' : Owed} {e : Element} {c base : Nat} {cs : List Nat} {p q : Nesting}
  {bytes : Bytes}

/-- An element takes one from what is to come, and adds what it holds. -/
theorem Nesting.wants_begin {items : Nat} (h : p.begin items = some q) :
    p.wants + items ≤ q.wants + 1 := by
  obtain ⟨_ | due, _ | ⟨frame, frames⟩⟩ := p
  · cases h
  all_goals
    cases h
    simp only [Nesting.wants, List.map_cons, List.sum_cons, List.map_nil, List.sum_nil]
    omega

theorem Nesting.wants_advance (h : p.advance e = some q) : p.wants ≤ q.wants + 1 := by
  cases e with
  | leaf => exact Nesting.wants_begin h
  | reserved => cases h
  | holder items => exact Nat.le_of_add_right_le (Nesting.wants_begin h)
  | opened pairs =>
    obtain ⟨next, hbegin, rfl⟩ := Option.map_eq_some_iff.1 h
    have := Nesting.wants_begin hbegin
    simp only [Nesting.wants, List.map_cons, List.sum_cons] at this ⊢
    omega
  | stop =>
    obtain ⟨_ | due, _ | ⟨frame, frames⟩⟩ := p
    · cases h
    · simp only [Nesting.advance, Nesting.close] at h
      split at h
      · cases h
      · cases h
        simp only [Nesting.wants, List.map_cons, List.sum_cons]
        omega
    · cases h
    · cases h

theorem Run.wants_le {text : Bytes → Prop} (h : Run text p bytes .finished) :
    p.wants ≤ bytes.length := by
  generalize hend : Nesting.finished = r at h
  induction h with
  | refl p =>
    subst hend
    exact Nat.zero_le _
  | step hspells hadvance _ ih =>
    have hwants := Nesting.wants_advance hadvance
    have hrest := ih hend
    have hpos := List.length_pos_iff.2 hspells.ne_nil
    rw [List.length_append]
    omega

theorem Nesting.advance_finished (e : Element) : Nesting.finished.advance e = none := by
  cases e with
  | leaf | reserved | holder | opened | stop => rfl

theorem Owed.counted_le (stack : List (Option Nat)) :
    counted stack ≤ wanted stack + (behind stack).sum + (behind stack).length := by
  induction stack with
  | nil => exact Nat.zero_le _
  | cons entry stack ih =>
    cases entry with
    | some n =>
      simp only [counted, wanted, behind]
      omega
    | none =>
      simp only [counted, wanted, behind, List.sum_cons, List.length_cons]
      omega

theorem Owed.length_behind (stack : List (Option Nat)) :
    (behind stack).length = stack.count none := by
  induction stack with
  | nil => rfl
  | cons entry stack ih =>
    cases entry with
    | some n => simpa [behind] using ih
    | none => simpa [behind] using ih

theorem Owes.counts_le (h : Owes owed c cs) : owed.counts ≤ c + cs.sum + cs.length := by
  cases h with
  | counting hruns =>
    simp only [Owed.counts, Owed.counted]
    omega
  | stacked stack =>
    have := Owed.counted_le stack
    simp only [Owed.counts]
    omega

theorem Owes.waits_eq (h : Owes owed c cs) : owed.waits = cs.length := by
  cases h with
  | counting hruns => simp [Owed.waits]
  | stacked stack => simp [Owed.waits, Owed.length_behind]

/-- The walk never owes more than is to come. -/
theorem Near.le_wants {due : Nat} {frames : List Frame} (h : Near base c cs due frames) :
    c + cs.sum + cs.length ≤ Nesting.wants ⟨due, frames⟩ ∧ cs.length = frames.length := by
  induction h with
  | last hdue => simp [Nesting.wants, hdue]
  | inside hle hlt _ ih =>
    simp only [Nesting.wants, List.sum_cons, List.length_cons, List.map_cons] at ih ⊢
    omega

theorem Owed.completeItem_counts_le (owed : Owed) : owed.completeItem.counts ≤ owed.counts := by
  have htake (stack : List (Option Nat)) : counted (takeFromStack stack) ≤ counted stack := by
    fun_induction takeFromStack stack with
    | case1 rest ih =>
      rw [counted]
      omega
    | case2 n rest =>
      simp only [counted]
      omega
    | case3 => exact Nat.le_refl _
  unfold completeItem counts
  split
  · exact Nat.add_le_add_left (htake owed.stack) _
  · simp only
    omega

theorem Owed.openCounted_counts_le (owed : Owed) (k : Nat) :
    (owed.openCounted k).counts ≤ owed.counts + k := by
  unfold openCounted counts saturate
  split
  · omega
  · split
    · simp only [counted]
      omega
    · simp only
      omega

theorem Owed.openUncounted_counts_le (owed : Owed) : owed.openUncounted.counts ≤ owed.counts := by
  unfold openUncounted counts
  split
  · simp only [counted]
    omega
  · split
    · exact Nat.le_refl _
    · simp only [counted, counted_replicate_append]
      omega

theorem Owed.openUncounted_waits_le (owed : Owed) :
    owed.openUncounted.waits ≤ owed.waits + 1 := by
  unfold openUncounted waits saturate
  split
  · simp only [List.count_cons_self]
    omega
  · split
    · simp only
      omega
    · simp only [List.count_cons_self, List.count_append, List.count_replicate_self,
        List.count_cons_of_ne (Option.some_ne_none _)]
      omega

theorem Owed.takeBreak_waits_le (owed : Owed) : owed.takeBreak.waits ≤ owed.waits := by
  unfold takeBreak waits
  split
  · split
    · rename_i hstack
      simp only [hstack, List.count_cons_self]
      omega
    · exact Nat.le_refl _
  · simp only
    omega

/-- What is owed behind an element is bounded by what comes before and behind it
in the nesting. -/
theorem Effect.le_wants (heffect : Effect owed e owed') (hadvance : p.advance e = some q)
    (hcounts : owed.counts ≤ p.wants) (hwaits : owed.waits ≤ p.frames.length)
    (hfew : q.wants + 1 < 2 ^ 64 - 1) :
    owed'.counts ≤ q.wants + 1 ∧ owed'.waits ≤ q.wants + 1 := by
  have hwants := Nesting.wants_advance hadvance
  have hframes : p.frames.length ≤ p.wants := by
    have hsum (frames : List Frame) :
        frames.length ≤ (frames.map fun frame => frame.resume + 1).sum := by
      induction frames with
      | nil => exact Nat.le_refl _
      | cons frame frames ih =>
        simp only [List.length_cons, List.map_cons, List.sum_cons]
        omega
    exact Nat.le_add_left_of_le (hsum p.frames)
  cases heffect with
  | leaf | reserved =>
    have := owed.completeItem_counts_le
    rw [owed.waits_completeItem]
    omega
  | @holder n k hcount =>
    have hbegin := Nesting.wants_begin hadvance
    have hk : k = n := by
      unfold saturate at hcount
      omega
    have hopen := owed.openCounted_counts_le k
    have := (owed.openCounted k).completeItem_counts_le
    rw [Owed.waits_completeItem, owed.waits_openCounted]
    omega
  | tag => omega
  | opened pairs =>
    have hopen := owed.openUncounted_counts_le
    have hopened := owed.openUncounted_waits_le
    have := owed.openUncounted.completeItem_counts_le
    obtain ⟨next, hbegin, rfl⟩ := Option.map_eq_some_iff.1 hadvance
    have hnext := Nesting.wants_begin hbegin
    rw [Owed.waits_completeItem]
    simp only [Nesting.wants, List.map_cons, List.sum_cons] at hwants hnext hcounts hframes ⊢
    omega
  | stop =>
    have hbreak := owed.takeBreak_waits_le
    have := owed.takeBreak.completeItem_counts_le
    rw [owed.counts_takeBreak] at this
    rw [Owed.waits_completeItem]
    omega

/-- The walk comes to its end where the nesting does. By induction on the
elements. -/
theorem Run.settle_append (h : Run ValidText p bytes .finished) (howes : Owes owed c cs)
    (hnear : Near 0 c cs p.due p.frames) (hlen : bytes.length < 2 ^ 64 - 2) (rest : Bytes) :
    settle owed (bytes ++ rest) = .ok rest := by
  generalize hend : Nesting.finished = r at h
  induction h generalizing owed c cs with
  | refl p =>
    subst hend
    have hsettled : owed.settled = true := by
      refine howes.settled_iff.2 ?_
      generalize hdue : Nesting.finished.due = due at hnear
      generalize hframes : Nesting.finished.frames = frames at hnear
      cases hnear with
      | last hc =>
        subst hdue
        exact ⟨by simpa [Nesting.finished] using hc.symm, rfl⟩
      | inside => cases hframes
    rw [settle, if_pos hsettled]
    rfl
  | @step p q r e piece later hspells hadvance hrest ih =>
    subst hend
    have he : e ≠ .reserved := by
      rintro rfl
      cases hadvance
    have howed : ¬ owed.settled = true := by
      intro hsettled
      obtain ⟨rfl, rfl⟩ := howes.settled_iff.1 hsettled
      obtain ⟨due, frames⟩ := p
      cases hnear with
      | last hdue =>
        obtain rfl : due = 0 := hdue
        rw [show (⟨0, []⟩ : Nesting) = .finished from rfl, Nesting.advance_finished] at hadvance
        cases hadvance
    obtain ⟨owed', hread, heffect⟩ := hspells.element_append he owed (later ++ rest)
    have hpos := List.length_pos_iff.2 hspells.ne_nil
    have hwants := hrest.wants_le
    rw [List.length_append] at hlen
    obtain ⟨hle, hlength⟩ := hnear.le_wants
    obtain ⟨hcounts, hwaits⟩ := heffect.le_wants hadvance (Nat.le_trans howes.counts_le hle)
      (howes.waits_eq.trans hlength).le (by omega)
    obtain ⟨c', cs', howes', hnear'⟩ :=
      hnear.step howes howed heffect (by omega) (by omega) hadvance
    rw [List.append_assoc, settle, if_neg howed]
    split
    · simp_all
    · rename_i owed'' mid heq
      rw [hread] at heq
      cases heq
      exact ih howes' hnear' (by omega) rfl

/-- One item of the grammar with valid texts is passed over, whatever follows. -/
theorem Items.skip_append (h : Items ValidText 1 bytes) (hlen : bytes.length < 2 ^ 64 - 2)
    (rest : Bytes) : skip (bytes ++ rest) = .ok rest := by
  have howes : Owes .start 1 [] := @Owes.counting 1 0 (by decide)
  exact (items_iff_run.1 h).settle_append howes (.last rfl) hlen rest

end Passing

end Provenance.Cbor
