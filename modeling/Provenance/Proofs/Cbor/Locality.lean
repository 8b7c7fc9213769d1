import Mathlib
import Provenance.Cbor.Skip

/-!
Readers are local. A reader that succeeds has taken bytes from the front, and
with these bytes in front of anything else it returns the same value and leaves
that rest alone. Locality passes through sequences of readers; a look at the
next byte keeps it as long as the byte looked at is then taken.
-/

namespace Provenance

/-- A reader whose results depend on the bytes that it takes and on no others. -/
def Local {ε α : Type} (read : Bytes → Except ε (α × Bytes)) : Prop :=
  ∀ bytes a rest, read bytes = .ok (a, rest) →
    ∃ taken, bytes = taken ++ rest ∧ ∀ rest', read (taken ++ rest') = .ok (a, rest')

def Takes {ε α : Type} (read : Bytes → Except ε (α × Bytes)) : Prop :=
  ∀ bytes a rest, read bytes = .ok (a, rest) → rest.length < bytes.length

namespace Local

variable {ε α β : Type}

theorem of_ne_ok {read : Bytes → Except ε (α × Bytes)}
    (h : ∀ bytes a, read bytes ≠ .ok a) : Local read := by
  intro bytes a rest hread
  exact absurd hread (h bytes (a, rest))

theorem pure (a : α) : Local fun bytes => (Except.ok (a, bytes) : Except ε (α × Bytes)) := by
  intro bytes b rest h
  cases h
  exact ⟨[], rfl, fun _ => rfl⟩

/-- Only what stands behind the first byte matters if a reader begins with it. -/
theorem of_cons {read : Bytes → Except ε (α × Bytes)} (hnil : ∀ a, read [] ≠ .ok a)
    (hcons : ∀ head, Local fun rest => read (head :: rest)) : Local read := by
  intro bytes a rest h
  cases bytes with
  | nil => exact absurd h (hnil _)
  | cons head tail =>
    obtain ⟨taken, rfl, htaken⟩ := hcons head tail a rest h
    exact ⟨head :: taken, rfl, htaken⟩

/-- A reader that takes something is local behind a fixed first byte too. -/
theorem behind {read : Bytes → Except ε (α × Bytes)} (hread : Local read)
    (htakes : Takes read) (head : UInt8) : Local fun rest => read (head :: rest) := by
  intro tail a rest h
  have hlen := htakes _ _ _ h
  obtain ⟨taken, heq, htaken⟩ := hread _ _ _ h
  cases taken with
  | nil =>
    rw [heq] at hlen
    simp at hlen
  | cons first taken =>
    obtain ⟨rfl, rfl⟩ := List.cons.inj heq
    exact ⟨taken, rfl, htaken⟩

theorem bind {read : Bytes → Except ε (α × Bytes)} {f : α → Bytes → Except ε (β × Bytes)}
    (hread : Local read) (hf : ∀ a, Local (f a)) :
    Local fun bytes => read bytes >>= fun result => f result.1 result.2 := by
  intro bytes b rest h
  cases hr : read bytes with
  | error e => simp [hr, Bind.bind, Except.bind] at h
  | ok result =>
    obtain ⟨a, mid⟩ := result
    obtain ⟨first, rfl, hfirst⟩ := hread _ _ _ hr
    simp only [hr, Bind.bind, Except.bind] at h
    obtain ⟨second, rfl, hsecond⟩ := hf a _ _ _ h
    refine ⟨first ++ second, (List.append_assoc ..).symm, fun rest' => ?_⟩
    simp only [List.append_assoc, hfirst, Bind.bind, Except.bind, hsecond]

theorem map {read : Bytes → Except ε (α × Bytes)} (hread : Local read) (f : α → β) :
    Local fun bytes => (read bytes).map fun result => (f result.1, result.2) := by
  intro bytes b rest h
  cases hr : read bytes with
  | error e => simp [hr, Except.map] at h
  | ok result =>
    obtain ⟨taken, rfl, htaken⟩ := hread _ _ _ hr
    simp only [hr, Except.map, Except.ok.injEq, Prod.mk.injEq] at h
    obtain ⟨rfl, rfl⟩ := h
    exact ⟨taken, rfl, fun rest' => by simp only [htaken, Except.map]⟩

theorem mapError {ε' : Type} {read : Bytes → Except ε (α × Bytes)} (hread : Local read)
    (f : ε → ε') : Local fun bytes => (read bytes).mapError f := by
  intro bytes a rest h
  cases hr : read bytes with
  | error e => simp [hr, Except.mapError] at h
  | ok result =>
    simp only [hr, Except.mapError, Except.ok.injEq] at h
    subst h
    obtain ⟨taken, rfl, htaken⟩ := hread _ _ _ hr
    exact ⟨taken, rfl, fun rest' => by simp only [htaken, Except.mapError]⟩

theorem ite {p : Prop} [Decidable p] {yes no : Bytes → Except ε (α × Bytes)}
    (hyes : p → Local yes) (hno : ¬ p → Local no) :
    Local fun bytes => if p then yes bytes else no bytes := by
  by_cases h : p
  · simpa only [if_pos h] using hyes h
  · simpa only [if_neg h] using hno h

/-- A look ahead. Where the reader chosen by it takes a byte, what is seen has
to be seen in front of any rest. -/
theorem peek {γ : Type} {look : Bytes → Except ε γ} {next : γ → Bytes → Except ε (α × Bytes)}
    (hnext : ∀ c, Local (next c)) (htakes : ∀ c, Takes (next c))
    (hlook : ∀ c head tail tail' bytes a, look (head :: tail) = .ok c → next c bytes = .ok a →
      look (head :: tail') = .ok c) :
    Local fun bytes => look bytes >>= fun c => next c bytes := by
  intro bytes a rest h
  cases hl : look bytes with
  | error e => simp [hl, Bind.bind, Except.bind] at h
  | ok c =>
    simp only [hl, Bind.bind, Except.bind] at h
    have hlen := htakes c _ _ _ h
    obtain ⟨taken, rfl, htaken⟩ := hnext c _ _ _ h
    cases taken with
    | nil => simp at hlen
    | cons head tail =>
      refine ⟨head :: tail, rfl, fun rest' => ?_⟩
      have hl' := hlook c head (tail ++ rest) (tail ++ rest') _ _ hl h
      simp only [List.cons_append] at hl' ⊢
      simp only [hl', Bind.bind, Except.bind]
      exact htaken rest'

theorem length_le {read : Bytes → Except ε (α × Bytes)} (hread : Local read)
    {bytes rest : Bytes} {a : α} (h : read bytes = .ok (a, rest)) :
    rest.length ≤ bytes.length := by
  obtain ⟨taken, rfl, -⟩ := hread _ _ _ h
  simp only [List.length_append]
  omega

/-- What is put behind the bytes stays behind the rest. -/
theorem append {read : Bytes → Except ε (α × Bytes)} (hread : Local read) {bytes rest : Bytes}
    {a : α} (h : read bytes = .ok (a, rest)) (more : Bytes) :
    read (bytes ++ more) = .ok (a, rest ++ more) := by
  obtain ⟨taken, rfl, htaken⟩ := hread _ _ _ h
  rw [List.append_assoc]
  exact htaken (rest ++ more)

end Local

namespace Takes

variable {ε α β : Type}

theorem of_ne_ok {read : Bytes → Except ε (α × Bytes)}
    (h : ∀ bytes a, read bytes ≠ .ok a) : Takes read := by
  intro bytes a rest hread
  exact absurd hread (h bytes (a, rest))

theorem bind {read : Bytes → Except ε (α × Bytes)} {f : α → Bytes → Except ε (β × Bytes)}
    (hread : Takes read) (hf : ∀ a, Local (f a)) :
    Takes fun bytes => read bytes >>= fun result => f result.1 result.2 := by
  intro bytes b rest h
  cases hr : read bytes with
  | error e => simp [hr, Bind.bind, Except.bind] at h
  | ok result =>
    simp only [hr, Bind.bind, Except.bind] at h
    have hfirst := hread _ _ _ hr
    have hsecond := (hf result.1).length_le h
    omega

theorem mapError {ε' : Type} {read : Bytes → Except ε (α × Bytes)} (hread : Takes read)
    (f : ε → ε') : Takes fun bytes => (read bytes).mapError f := by
  intro bytes a rest h
  cases hr : read bytes with
  | error e => simp [hr, Except.mapError] at h
  | ok result =>
    simp only [hr, Except.mapError, Except.ok.injEq] at h
    subst h
    exact hread _ _ _ hr

end Takes

def LocalPass {ε : Type} (pass : Bytes → Except ε Bytes) : Prop :=
  ∀ bytes rest, pass bytes = .ok rest →
    ∃ taken, bytes = taken ++ rest ∧ ∀ rest', pass (taken ++ rest') = .ok rest'

namespace LocalPass

variable {ε α : Type}

theorem of_local {read : Bytes → Except ε (α × Bytes)} (hread : Local read) :
    LocalPass fun bytes => (read bytes).map Prod.snd := by
  intro bytes rest h
  cases hr : read bytes with
  | error e => simp [hr, Except.map] at h
  | ok result =>
    simp only [hr, Except.map, Except.ok.injEq] at h
    subst h
    obtain ⟨taken, rfl, htaken⟩ := hread _ _ _ hr
    exact ⟨taken, rfl, fun rest' => by simp only [htaken, Except.map]⟩

/-- A fixed value in front makes a reader of it. -/
theorem tag {pass : Bytes → Except ε Bytes} (hpass : LocalPass pass) (a : α) :
    Local fun bytes => (pass bytes).map (a, ·) := by
  intro bytes b rest h
  cases hp : pass bytes with
  | error e => simp [hp, Except.map] at h
  | ok mid =>
    simp only [hp, Except.map, Except.ok.injEq, Prod.mk.injEq] at h
    obtain ⟨rfl, rfl⟩ := h
    obtain ⟨taken, rfl, htaken⟩ := hpass _ _ hp
    exact ⟨taken, rfl, fun rest' => by simp only [htaken, Except.map]⟩

end LocalPass

namespace Cbor

theorem local_take (n : Nat) : Local (take n) := by
  intro bytes a rest h
  obtain ⟨rfl, hlen⟩ := take_eq_ok h
  refine ⟨a, rfl, fun rest' => ?_⟩
  have hs : Bytes.split? n (a ++ rest') = some (a, rest') :=
    Bytes.split?_eq_some_iff.2 ⟨rfl, hlen⟩
  simp only [take, hs]

theorem local_argument (low : Nat) : Local (argument low) := by
  unfold argument
  refine Local.ite (fun _ => Local.pure low) fun _ => ?_
  refine Local.ite (fun _ => ?_) fun _ => Local.of_ne_ok (by simp)
  exact (local_take _).bind fun digits => Local.pure digits.bigEndian

theorem local_mismatch {α : Type} (head : UInt8) :
    Local (mismatch head : Bytes → Except Fault (α × Bytes)) :=
  Local.of_ne_ok fun _ _ => mismatch_ne_ok

theorem local_definite (kind : Nat) : Local (definite kind) := by
  refine Local.of_cons (by simp [definite]) fun head => ?_
  refine Local.ite (fun _ => ?_) fun _ => local_mismatch head
  exact (local_argument _).bind fun n => local_take n

theorem local_decoded (text? : Option String) : Local fun rest => match text? with
    | some text => Except.ok (text, rest)
    | none => .error Fault.invalidUtf8 := by
  cases text? with
  | none => exact Local.of_ne_ok (by simp)
  | some text => exact Local.pure text

theorem local_textString : Local textString :=
  (local_definite 3).bind fun content => local_decoded (Utf8.decode? content)

theorem local_container (kind : Nat) : Local (container kind) := by
  refine Local.of_cons (by simp [container]) fun head => ?_
  refine Local.ite (fun _ => ?_) fun _ => local_mismatch head
  refine Local.ite (fun _ => Local.pure none) fun _ => ?_
  exact (local_argument _).bind fun n => Local.pure (some n)

theorem local_bool : Local bool := by
  refine Local.of_cons (by simp [bool]) fun head => ?_
  refine Local.ite (fun _ => Local.pure false) fun _ => ?_
  exact Local.ite (fun _ => Local.pure true) fun _ => local_mismatch head

theorem localPass_passDefinite (kind : Nat) : LocalPass (passDefinite kind) := by
  by_cases hk : kind = 3
  · subst hk
    exact LocalPass.of_local local_textString
  · have heq : passDefinite kind = fun bytes => (definite kind bytes).map Prod.snd := by
      funext bytes
      simp only [passDefinite, if_neg hk]
    rw [heq]
    exact LocalPass.of_local (local_definite kind)

/-- By induction on the chunks: each is a string of its own, the break ends
them. -/
theorem localPass_passChunks (kind : Nat) : LocalPass (passChunks kind) := by
  intro bytes rest h
  fun_induction passChunks kind bytes with
  | case1 => cases h
  | case2 head tail hbreak =>
    cases h
    refine ⟨[head], rfl, fun rest' => ?_⟩
    simp only [List.singleton_append]
    unfold passChunks
    rw [if_pos hbreak]
  | case3 => cases h
  | case4 head tail hbreak mid hmid ih =>
    obtain ⟨later, rfl, hlater⟩ := ih h
    have hlen := passDefinite_length hmid
    obtain ⟨chunk, hchunk, hpass⟩ := localPass_passDefinite kind _ _ hmid
    cases chunk with
    | nil =>
      rw [hchunk] at hlen
      simp at hlen
    | cons first chunk =>
      obtain ⟨rfl, rfl⟩ := List.cons.inj hchunk
      refine ⟨head :: (chunk ++ later), by simp, fun rest' => ?_⟩
      have hnext := hpass (later ++ rest')
      simp only [List.cons_append, List.append_assoc] at hnext ⊢
      unfold passChunks
      rw [if_neg hbreak]
      split
      · simp_all
      · rename_i rest'' heq
        rw [hnext] at heq
        cases heq
        exact hlater rest'

theorem localPass_passString (kind : Nat) : LocalPass (passString kind) := by
  intro bytes rest h
  cases bytes with
  | nil => cases h
  | cons head tail =>
    have hlen := passString_length h
    simp only [passString] at h
    split at h
    · rename_i hopen
      obtain ⟨taken, rfl, htaken⟩ := localPass_passChunks kind _ _ h
      refine ⟨head :: taken, rfl, fun rest' => ?_⟩
      simp only [List.cons_append, passString, if_pos hopen, htaken]
    · rename_i hone
      obtain ⟨taken, heq, htaken⟩ := localPass_passDefinite kind _ _ h
      cases taken with
      | nil =>
        rw [heq] at hlen
        simp at hlen
      | cons first taken =>
        obtain ⟨rfl, rfl⟩ := List.cons.inj heq
        refine ⟨head :: taken, rfl, fun rest' => ?_⟩
        simpa only [List.cons_append, passString, if_neg hone] using htaken rest'

theorem localPass_passHead : LocalPass passHead := by
  intro bytes rest h
  cases bytes with
  | nil => cases h
  | cons head tail =>
    obtain ⟨taken, rfl, htaken⟩ := LocalPass.of_local (local_argument (low head)) tail rest h
    exact ⟨head :: taken, rfl, htaken⟩

/-- Which kind of element comes next is seen from the first byte. -/
theorem local_element (owed : Owed) : Local (element owed) := by
  have pass {r : Bytes → Except Fault Bytes} (hr : LocalPass r)
      (hlen : ∀ bytes rest, r bytes = .ok rest → rest.length < bytes.length) (owed' : Owed)
      (head : UInt8) : Local fun rest => (r (head :: rest)).map (owed', ·) := by
    refine (hr.tag owed').behind (fun bytes a rest h => ?_) head
    cases hb : r bytes with
    | error e => simp [hb, Except.map] at h
    | ok mid =>
      simp only [hb, Except.map, Except.ok.injEq, Prod.mk.injEq] at h
      exact h.2 ▸ hlen _ _ hb
  have opens (kind : Nat) (f : Option Nat → Owed) (head : UInt8) :
      Local fun rest => (container kind (head :: rest)).map fun result =>
        (f result.1, result.2) :=
    ((local_container kind).behind (fun _ _ _ => container_length) head).map f
  refine Local.of_cons (by simp [element]) fun head => ?_
  refine Local.ite (fun _ => pass localPass_passHead (fun _ _ => passHead_length) _ head)
    fun _ => ?_
  refine Local.ite (fun _ => pass (localPass_passString 2) (fun _ _ => passString_length) _ head)
    fun _ => ?_
  refine Local.ite (fun _ => pass (localPass_passString 3) (fun _ _ => passString_length) _ head)
    fun _ => ?_
  refine Local.ite (fun _ => opens 4 (fun count => (owed.openContainer count).completeItem) head)
    fun _ => ?_
  refine Local.ite (fun _ => opens 5 (fun count =>
    (owed.openContainer (count.map fun k => saturate (2 * k))).completeItem) head) fun _ => ?_
  refine Local.ite (fun _ => pass localPass_passHead (fun _ _ => passHead_length) _ head)
    fun _ => ?_
  exact Local.ite (fun _ => Local.pure _) fun _ => Local.of_ne_ok (by simp)

/-- By induction on the elements that the walk reads. -/
theorem localPass_settle (owed : Owed) : LocalPass (settle owed) := by
  intro bytes rest h
  fun_induction settle owed bytes with
  | case1 owed bytes hsettled =>
    cases h
    refine ⟨[], rfl, fun rest' => ?_⟩
    unfold settle
    rw [if_pos hsettled]
    rfl
  | case2 => cases h
  | case3 owed bytes howed owed' mid hmid ih =>
    obtain ⟨later, rfl, hlater⟩ := ih h
    obtain ⟨first, rfl, hfirst⟩ := local_element owed _ _ _ hmid
    refine ⟨first ++ later, by simp, fun rest' => ?_⟩
    rw [List.append_assoc]
    unfold settle
    rw [if_neg howed]
    split
    · simp_all
    · rename_i owed'' rest'' heq
      rw [hfirst] at heq
      cases heq
      exact hlater rest'

theorem localPass_skip : LocalPass skip := localPass_settle .start

end Cbor

end Provenance
