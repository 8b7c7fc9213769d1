import Provenance.Proofs.Cbor.Elements
import Provenance.Proofs.Success

/-!
What the readers take from the front of the bytes is in the grammar: strings,
heads and elements are what the grammar says they are. The walk over an item is
not; here stands only what each element does to what it owes.
-/

namespace Provenance.Cbor

def ValidText (content : Bytes) : Prop := (Utf8.decode? content).isSome = true

section Readers

variable {kind : Nat} {bytes rest : Bytes}

theorem definite_eq_ok {content : Bytes} (h : definite kind bytes = .ok (content, rest)) :
    ∃ head, bytes = head ++ (content ++ rest) ∧ Head kind content.length head := by
  cases bytes with
  | nil => cases h
  | cons first tail =>
    simp only [definite] at h
    split at h
    · rename_i hfirst
      obtain ⟨⟨n, mid⟩, hargument, htake⟩ := exists_of_bind_eq_ok h
      obtain ⟨digits, rfl, hhead⟩ := head_of_argument hargument
      obtain ⟨rfl, rfl⟩ := take_eq_ok htake
      rw [hfirst.1] at hhead
      exact ⟨first :: digits, rfl, hhead⟩
    · exact absurd h mismatch_ne_ok

theorem textString_eq_ok {text : String} (h : textString bytes = .ok (text, rest)) :
    ∃ head content, bytes = head ++ (content ++ rest) ∧ Head 3 content.length head ∧
      Utf8.decode? content = some text := by
  obtain ⟨⟨content, mid⟩, hdefinite, htext⟩ := exists_of_bind_eq_ok h
  obtain ⟨head, rfl, hhead⟩ := definite_eq_ok hdefinite
  cases hdecode : Utf8.decode? content with
  | none => simp [hdecode] at htext
  | some found =>
    simp only [hdecode, Except.ok.injEq, Prod.mk.injEq] at htext
    obtain ⟨rfl, rfl⟩ := htext
    exact ⟨head, content, rfl, hhead, hdecode⟩

theorem chunk_of_textString {text : String} (h : textString bytes = .ok (text, rest)) :
    ∃ chunk, bytes = chunk ++ rest ∧ Chunk ValidText 3 chunk := by
  obtain ⟨head, content, rfl, hhead, hdecode⟩ := textString_eq_ok h
  refine ⟨head ++ content, by simp, .mk hhead fun _ => ?_⟩
  rw [ValidText, hdecode, Option.isSome_some]

theorem passDefinite_eq_ok (h : passDefinite kind bytes = .ok rest) :
    ∃ chunk, bytes = chunk ++ rest ∧ Chunk ValidText kind chunk := by
  unfold passDefinite at h
  split at h
  · rename_i hkind
    subst hkind
    obtain ⟨⟨text, mid⟩, htext, rfl⟩ := exists_of_map_eq_ok h
    exact chunk_of_textString htext
  · rename_i hkind
    obtain ⟨⟨content, mid⟩, hdefinite, rfl⟩ := exists_of_map_eq_ok h
    obtain ⟨head, rfl, hhead⟩ := definite_eq_ok hdefinite
    exact ⟨head ++ content, by simp, .mk hhead fun heq => absurd heq hkind⟩

theorem passChunks_eq_ok (h : passChunks kind bytes = .ok rest) :
    ∃ chunks, bytes = chunks ++ stopByte :: rest ∧ Chunks ValidText kind chunks := by
  fun_induction passChunks kind bytes with
  | case1 => cases h
  | case2 head tail hbreak =>
    cases h
    have hhead : head = stopByte := UInt8.toNat.inj hbreak
    exact ⟨[], by rw [hhead, List.nil_append], .nil⟩
  | case3 => cases h
  | case4 head tail hbreak mid hmid ih =>
    obtain ⟨later, rfl, hlater⟩ := ih h
    obtain ⟨chunk, hchunk, hpiece⟩ := passDefinite_eq_ok hmid
    exact ⟨chunk ++ later, by rw [hchunk, List.append_assoc], .cons hpiece hlater⟩

theorem passString_eq_ok (hkind : kind = 2 ∨ kind = 3) (h : passString kind bytes = .ok rest) :
    ∃ item, bytes = item ++ rest ∧ Leaf ValidText item := by
  cases bytes with
  | nil => cases h
  | cons first tail =>
    simp only [passString] at h
    split at h
    · rename_i hopen
      obtain ⟨chunks, rfl, hchunks⟩ := passChunks_eq_ok h
      have hfirst := openHead_of_low hopen.2
      rw [hopen.1] at hfirst
      exact ⟨_, by simp [hfirst], .openString hkind hchunks⟩
    · obtain ⟨chunk, hbytes, hchunk⟩ := passDefinite_eq_ok h
      exact ⟨chunk, hbytes, .string hkind hchunk⟩

theorem passHead_eq_ok {first : UInt8} (h : passHead (first :: bytes) = .ok rest) :
    ∃ n head, first :: bytes = head ++ rest ∧ Head (major first) n head := by
  obtain ⟨⟨n, mid⟩, hargument, rfl⟩ := exists_of_map_eq_ok h
  obtain ⟨digits, rfl, hhead⟩ := head_of_argument hargument
  exact ⟨n, first :: digits, rfl, hhead⟩

/-- The head of a container is one with its number of entries or an open one. -/
theorem container_eq_ok {count : Option Nat} (h : container kind bytes = .ok (count, rest)) :
    (count = none ∧ bytes = openHead kind :: rest) ∨
      ∃ n head, count = some n ∧ bytes = head ++ rest ∧ Head kind n head := by
  cases bytes with
  | nil => cases h
  | cons first tail =>
    simp only [container] at h
    split at h
    · rename_i hmajor
      split at h
      · rename_i hlow
        cases h
        have hfirst := openHead_of_low hlow
        rw [hmajor] at hfirst
        exact .inl ⟨rfl, by rw [hfirst]⟩
      · obtain ⟨⟨n, mid⟩, hargument, hcount⟩ := exists_of_bind_eq_ok h
        cases hcount
        obtain ⟨digits, rfl, hhead⟩ := head_of_argument hargument
        rw [hmajor] at hhead
        exact .inr ⟨n, first :: digits, rfl, rfl, hhead⟩
    · exact absurd h mismatch_ne_ok

/-- A flag is one byte. -/
theorem bool_eq_ok {flag : Bool} (h : Cbor.bool bytes = .ok (flag, rest)) :
    bytes = (if flag then 0xF5 else 0xF4) :: rest := by
  cases bytes with
  | nil => cases h
  | cons head tail =>
    simp only [Cbor.bool] at h
    split at h
    · rename_i hhead
      cases h
      rw [show head = 0xF4 from UInt8.toNat.inj hhead]
      rfl
    · split at h
      · rename_i hhead
        cases h
        rw [show head = 0xF5 from UInt8.toNat.inj hhead]
        rfl
      · exact absurd h mismatch_ne_ok

end Readers

/-- A simple value is an item, or it has two bytes and belongs in one. -/
theorem Head.spells_simple {n : Nat} {head : Bytes} (h : Head 7 n head) (text : Bytes → Prop) :
    Spells text .leaf head ∨ Spells text .reserved head := by
  by_cases hvalue : head.length = 2 → 32 ≤ n
  · exact .inl (.leaf (.simple h hvalue))
  · obtain ⟨hlen, hn⟩ := Classical.not_imp.1 hvalue
    cases h with
    | short => cases hlen
    | @wide width digits hwidth hdigits =>
      obtain ⟨value, rfl⟩ : ∃ value, digits = [value] :=
        List.length_eq_one_iff.1 (Nat.succ.inj hlen)
      obtain rfl : width = 0 := by simpa using hdigits.symm
      have hvalue : value.toNat < 32 := by simpa [Bytes.bigEndian] using hn
      exact .inr (.reserved hvalue)

/-- What an element does to what is owed. A holder is completed at once and owes
what it holds, while a tag completes nothing. -/
inductive Effect (owed : Owed) : Element → Owed → Prop
  | leaf : Effect owed .leaf owed.completeItem
  | reserved : Effect owed .reserved owed.completeItem
  | holder {n k : Nat} (hcount : saturate k = saturate n) :
      Effect owed (.holder n) (owed.openCounted k).completeItem
  | tag : Effect owed (.holder 1) owed
  | opened (pairs : Bool) : Effect owed (.opened pairs) owed.openUncounted.completeItem
  | stop : Effect owed .stop owed.takeBreak.completeItem

/-- The walk reads elements of the grammar. -/
theorem element_eq_ok {owed owed' : Owed} {bytes rest : Bytes}
    (h : element owed bytes = .ok (owed', rest)) :
    ∃ e piece, bytes = piece ++ rest ∧ Spells ValidText e piece ∧ Effect owed e owed' := by
  cases bytes with
  | nil => cases h
  | cons first tail =>
    simp only [element] at h
    split at h
    · -- Numbers and simple values.
      rename_i hfirst
      obtain ⟨mid, hpass, heq⟩ := exists_of_map_eq_ok h
      cases heq
      obtain ⟨n, head, hbytes, hhead⟩ := passHead_eq_ok hpass
      by_cases hsimple : 0xE0 ≤ first.toNat
      · have hmajor : major first = 7 := by
          unfold major
          omega
        rw [hmajor] at hhead
        rcases hhead.spells_simple ValidText with hleaf | hreserved
        · exact ⟨.leaf, head, hbytes, hleaf, .leaf⟩
        · exact ⟨.reserved, head, hbytes, hreserved, .reserved⟩
      · have hmajor : major first < 2 := by
          unfold major
          omega
        exact ⟨.leaf, head, hbytes, .leaf (.number hmajor hhead), .leaf⟩
    split at h
    · obtain ⟨mid, hpass, heq⟩ := exists_of_map_eq_ok h
      cases heq
      obtain ⟨item, hbytes, hitem⟩ := passString_eq_ok (.inl rfl) hpass
      exact ⟨.leaf, item, hbytes, .leaf hitem, .leaf⟩
    split at h
    · obtain ⟨mid, hpass, heq⟩ := exists_of_map_eq_ok h
      cases heq
      obtain ⟨item, hbytes, hitem⟩ := passString_eq_ok (.inr rfl) hpass
      exact ⟨.leaf, item, hbytes, .leaf hitem, .leaf⟩
    split at h
    · obtain ⟨⟨count, mid⟩, hcontainer, heq⟩ := exists_of_map_eq_ok h
      cases heq
      rcases container_eq_ok hcontainer with ⟨rfl, hbytes⟩ | ⟨n, head, rfl, hbytes, hhead⟩
      · exact ⟨.opened false, [openHead 4], hbytes, .openArray, .opened false⟩
      · exact ⟨.holder n, head, hbytes, .holder (.array hhead), .holder rfl⟩
    split at h
    · obtain ⟨⟨count, mid⟩, hcontainer, heq⟩ := exists_of_map_eq_ok h
      cases heq
      rcases container_eq_ok hcontainer with ⟨rfl, hbytes⟩ | ⟨n, head, rfl, hbytes, hhead⟩
      · exact ⟨.opened true, [openHead 5], hbytes, .openMap, .opened true⟩
      · have htwice : saturate (saturate (2 * n)) = saturate (2 * n) := by
          unfold saturate
          omega
        exact ⟨.holder (2 * n), head, hbytes, .holder (.map hhead), .holder htwice⟩
    split at h
    · rename_i hfirst
      obtain ⟨mid, hpass, heq⟩ := exists_of_map_eq_ok h
      cases heq
      obtain ⟨n, head, hbytes, hhead⟩ := passHead_eq_ok hpass
      have hmajor : major first = 6 := by
        unfold major
        omega
      rw [hmajor] at hhead
      exact ⟨.holder 1, head, hbytes, .holder (.tag hhead), .tag⟩
    split at h
    · rename_i hfirst
      cases h
      have hstop : first = stopByte := UInt8.toNat.inj hfirst
      exact ⟨.stop, [stopByte], by rw [hstop, List.singleton_append], .stop, .stop⟩
    · cases h

end Provenance.Cbor
