import Provenance.Cbor.Skip

/-!
The grammar of data items, by itself and without any reader. A head gives a
major type and an argument; items are numbers, strings, simple values, and what
holds other items: arrays, maps and tags. Strings, arrays and maps can be left
open and then end with a break, which stands nowhere else. What texts may
contain is a parameter: being well formed puts no condition on them.
-/

namespace Provenance.Cbor

def stopByte : UInt8 := 0xFF

/-- A head of the given major type and argument. A small argument is part of
the first byte, any other follows in one, two, four or eight bytes. -/
inductive Head (kind : Nat) : Nat → Bytes → Prop
  | short {n : Nat} (hn : n < 24) : Head kind n [UInt8.ofNat (32 * kind + n)]
  | wide {width : Nat} {digits : Bytes} (hwidth : width < 4) (hdigits : digits.length = 2 ^ width) :
      Head kind digits.bigEndian (UInt8.ofNat (32 * kind + 24 + width) :: digits)

def openHead (kind : Nat) : UInt8 := UInt8.ofNat (32 * kind + openEnded)

/-- The head of an item that holds as many items as the number says. A map
holds two for each entry, and a tag holds what it marks. -/
inductive Holder : Nat → Bytes → Prop
  | array {n : Nat} {head : Bytes} (hhead : Head 4 n head) : Holder n head
  | map {n : Nat} {head : Bytes} (hhead : Head 5 n head) : Holder (2 * n) head
  | tag {n : Nat} {head : Bytes} (hhead : Head 6 n head) : Holder 1 head

section Grammar

variable (text : Bytes → Prop)

inductive Chunk (kind : Nat) : Bytes → Prop
  | mk {head content : Bytes} (hhead : Head kind content.length head)
      (htext : kind = 3 → text content) : Chunk kind (head ++ content)

inductive Chunks (kind : Nat) : Bytes → Prop
  | nil : Chunks kind []
  | cons {chunk rest : Bytes} (hchunk : Chunk text kind chunk) (hrest : Chunks kind rest) :
      Chunks kind (chunk ++ rest)

/-- An item that holds no other. A simple value in two bytes is not one of
those that fit in one. -/
inductive Leaf : Bytes → Prop
  | number {kind n : Nat} {head : Bytes} (hkind : kind < 2) (hhead : Head kind n head) : Leaf head
  | string {kind : Nat} {item : Bytes} (hkind : kind = 2 ∨ kind = 3)
      (hchunk : Chunk text kind item) : Leaf item
  | openString {kind : Nat} {chunks : Bytes} (hkind : kind = 2 ∨ kind = 3)
      (hchunks : Chunks text kind chunks) : Leaf (openHead kind :: (chunks ++ [stopByte]))
  | simple {n : Nat} {head : Bytes} (hhead : Head 7 n head)
      (hvalue : head.length = 2 → 32 ≤ n) : Leaf head

inductive Items : Nat → Bytes → Prop
  | nil : Items 0 []
  | leaf {n : Nat} {item rest : Bytes} (hitem : Leaf text item) (hrest : Items n rest) :
      Items (n + 1) (item ++ rest)
  | holder {n k : Nat} {head inner rest : Bytes} (hhead : Holder k head) (hinner : Items k inner)
      (hrest : Items n rest) : Items (n + 1) (head ++ (inner ++ rest))
  | openArray {n k : Nat} {inner rest : Bytes} (hinner : Items k inner) (hrest : Items n rest) :
      Items (n + 1) (openHead 4 :: (inner ++ stopByte :: rest))
  | openMap {n k : Nat} {inner rest : Bytes} (hinner : Items (2 * k) inner)
      (hrest : Items n rest) : Items (n + 1) (openHead 5 :: (inner ++ stopByte :: rest))

end Grammar

def WellFormed (bytes : Bytes) : Prop := Items (fun _ => True) 1 bytes

/-- Exactly one well-formed map that announces its number of entries. -/
def WellFormedMap (bytes : Bytes) : Prop :=
  ∃ n head inner, Head 5 n head ∧ Items (fun _ => True) (2 * n) inner ∧ bytes = head ++ inner

def Viable (front : Bytes) : Prop := ∃ back, WellFormed (front ++ back)

/-- The byte with which the bytes leave the grammar. Before it they are the
beginning of some well-formed item and not yet a whole one. -/
structure Departs (bytes front : Bytes) (byte : UInt8) : Prop where
  bytes_eq : ∃ back, bytes = front ++ byte :: back
  viable : Viable front
  partly : ¬ WellFormed front
  not_viable : ¬ Viable (front ++ [byte])

/-- The last byte is the first of a simple value in two bytes: the second may be
`0x20`, but none of those below it. -/
structure AwaitsSimple (front : Bytes) : Prop where
  last : front.getLast? = some 0xF8
  viable : Viable (front ++ [0x20])
  not_viable : ∀ value : UInt8, value.toNat < 0x20 → ¬ Viable (front ++ [value])

theorem WellFormedMap.wellFormed {bytes : Bytes} (h : WellFormedMap bytes) :
    WellFormed bytes := by
  obtain ⟨n, head, inner, hhead, hinner, rfl⟩ := h
  have hmap := Items.holder (.map hhead) hinner .nil
  rwa [List.append_nil] at hmap

theorem Viable.of_append {front back : Bytes} (h : Viable (front ++ back)) : Viable front := by
  obtain ⟨rest, hrest⟩ := h
  exact ⟨back ++ rest, by rwa [← List.append_assoc]⟩

/-- A well-formed item does not leave the grammar. -/
theorem WellFormed.not_departs {bytes front : Bytes} {byte : UInt8} (h : WellFormed bytes) :
    ¬ Departs bytes front byte := by
  rintro ⟨⟨back, rfl⟩, -, -, hout⟩
  exact hout ⟨back, by simpa using h⟩

theorem ofNat_major_low (head : UInt8) : UInt8.ofNat (32 * major head + low head) = head := by
  have h : 32 * major head + low head = head.toNat := by
    unfold major low
    omega
  rw [h, UInt8.ofNat_toNat]

theorem major_low_ofNat {kind n : Nat} (hkind : kind < 8) (hn : n < 32) :
    major (UInt8.ofNat (32 * kind + n)) = kind ∧ low (UInt8.ofNat (32 * kind + n)) = n := by
  have h : (UInt8.ofNat (32 * kind + n)).toNat = 32 * kind + n := by
    rw [UInt8.toNat_ofNat']
    omega
  unfold major low
  rw [h]
  omega

theorem openHead_of_low {head : UInt8} (h : low head = openEnded) :
    head = openHead (major head) := by
  rw [openHead, ← h, ofNat_major_low]

/-- What a reader takes as the argument of a head makes it one. -/
theorem head_of_argument {head : UInt8} {n : Nat} {bytes rest : Bytes}
    (h : argument (low head) bytes = .ok (n, rest)) :
    ∃ digits, bytes = digits ++ rest ∧ Head (major head) n (head :: digits) := by
  have hhead := ofNat_major_low head
  unfold argument at h
  split at h
  · rename_i hshort
    cases h
    refine ⟨[], rfl, ?_⟩
    have hs := @Head.short (major head) _ hshort
    rwa [hhead] at hs
  · split at h
    · cases ht : take (2 ^ (low head - 24)) bytes with
      | error e => simp [ht, bind, Except.bind] at h
      | ok r =>
        obtain ⟨digits, later⟩ := r
        simp only [ht, bind, Except.bind, Except.ok.injEq, Prod.mk.injEq] at h
        obtain ⟨rfl, rfl⟩ := h
        obtain ⟨rfl, hlen⟩ := take_eq_ok ht
        refine ⟨digits, rfl, ?_⟩
        have hw := @Head.wide (major head) (low head - 24) digits (by omega) hlen
        have hwidth : 32 * major head + 24 + (low head - 24) = 32 * major head + low head := by
          omega
        rwa [hwidth, hhead] at hw
    · cases h

theorem take_append (digits rest : Bytes) : take digits.length (digits ++ rest) =
    .ok (digits, rest) := by
  have h : Bytes.split? digits.length (digits ++ rest) = some (digits, rest) :=
    Bytes.split?_eq_some_iff.2 ⟨rfl, rfl⟩
  simp only [take, h]

namespace Head

variable {kind n : Nat} {head : Bytes}

/-- The first byte shows the major type and the width, and behind it the
argument is read. -/
theorem exists_first (h : Head kind n head) (hkind : kind < 8) :
    ∃ first digits, head = first :: digits ∧ major first = kind ∧ low first < 28 ∧
      (low first = 24 ↔ head.length = 2) ∧
      ∀ rest, argument (low first) (digits ++ rest) = .ok (n, rest) := by
  cases h with
  | short hn =>
    obtain ⟨hmajor, hlow⟩ := major_low_ofNat hkind (show n < 32 by omega)
    refine ⟨_, [], rfl, hmajor, by omega, ?_, fun rest => ?_⟩
    · simp only [hlow, List.length_singleton]
      omega
    · rw [hlow, argument, if_pos hn, List.nil_append]
  | @wide width digits hwidth hdigits =>
    obtain ⟨hmajor, hlow⟩ := major_low_ofNat hkind (show 24 + width < 32 by omega)
    rw [← Nat.add_assoc] at hmajor hlow
    refine ⟨_, digits, rfl, hmajor, by omega, ?_, fun rest => ?_⟩
    · have hone : 2 ^ width = 1 ↔ width = 0 := by simp
      rw [hlow, List.length_cons, hdigits]
      omega
    · have hlen : 2 ^ (24 + width - 24) = digits.length := by
        rw [hdigits, Nat.add_sub_cancel_left]
      rw [hlow, argument, if_neg (by omega), if_pos (by omega), hlen, take_append]
      rfl

theorem ne_nil (h : Head kind n head) : head ≠ [] := by
  cases h <;> simp

end Head

section Mono

variable {text text' : Bytes → Prop} (htext : ∀ content, text content → text' content)
  {kind : Nat} {bytes : Bytes}

include htext

theorem Chunk.mono (h : Chunk text kind bytes) : Chunk text' kind bytes := by
  obtain ⟨hhead, hcontent⟩ := h
  exact .mk hhead fun hkind => htext _ (hcontent hkind)

theorem Chunks.mono (h : Chunks text kind bytes) : Chunks text' kind bytes := by
  induction h with
  | nil => exact .nil
  | cons hchunk _ ih => exact .cons (hchunk.mono htext) ih

/-- Items stay items when less is asked of their texts. -/
theorem Leaf.mono (h : Leaf text bytes) : Leaf text' bytes := by
  cases h with
  | number hkind hhead => exact .number hkind hhead
  | string hkind hchunk => exact .string hkind (hchunk.mono htext)
  | openString hkind hchunks => exact .openString hkind (hchunks.mono htext)
  | simple hhead hvalue => exact .simple hhead hvalue

end Mono

namespace Items

variable {text : Bytes → Prop} {m n : Nat} {a b : Bytes}

theorem append (ha : Items text m a) (hb : Items text n b) : Items text (m + n) (a ++ b) := by
  induction ha with
  | nil => simpa using hb
  | leaf hitem _ ih =>
    rw [List.append_assoc, Nat.add_right_comm]
    exact .leaf hitem ih
  | holder hhead hinner _ _ ih =>
    rw [List.append_assoc, List.append_assoc, Nat.add_right_comm]
    exact .holder hhead hinner ih
  | openArray hinner _ _ ih =>
    rw [List.cons_append, List.append_assoc, List.cons_append, Nat.add_right_comm]
    exact .openArray hinner ih
  | openMap hinner _ _ ih =>
    rw [List.cons_append, List.append_assoc, List.cons_append, Nat.add_right_comm]
    exact .openMap hinner ih

/-- The first of some items by itself. -/
theorem uncons (h : Items text (n + 1) a) :
    ∃ item rest, a = item ++ rest ∧ Items text 1 item ∧ Items text n rest := by
  cases h with
  | @leaf _ item rest hitem hrest =>
    have hone := Items.leaf hitem .nil
    rw [List.append_nil] at hone
    exact ⟨item, rest, rfl, hone, hrest⟩
  | @holder _ k head inner rest hhead hinner hrest =>
    have hone := Items.holder hhead hinner .nil
    rw [List.append_nil] at hone
    exact ⟨head ++ inner, rest, (List.append_assoc ..).symm, hone, hrest⟩
  | @openArray _ k inner rest hinner hrest =>
    exact ⟨openHead 4 :: (inner ++ [stopByte]), rest, by simp, .openArray hinner .nil, hrest⟩
  | @openMap _ k inner rest hinner hrest =>
    exact ⟨openHead 5 :: (inner ++ [stopByte]), rest, by simp, .openMap hinner .nil, hrest⟩

/-- Items in a row can be parted after any of them. -/
theorem split (h : Items text (m + n) a) :
    ∃ front back, a = front ++ back ∧ Items text m front ∧ Items text n back := by
  induction m generalizing a with
  | zero =>
    rw [Nat.zero_add] at h
    exact ⟨[], a, rfl, .nil, h⟩
  | succ m ih =>
    rw [Nat.add_right_comm] at h
    obtain ⟨item, rest, rfl, hitem, hrest⟩ := h.uncons
    obtain ⟨front, back, rfl, hfront, hback⟩ := ih hrest
    refine ⟨item ++ front, back, (List.append_assoc ..).symm, ?_, hback⟩
    rw [Nat.add_comm]
    exact hitem.append hfront

end Items

end Provenance.Cbor
