import Provenance.Proofs.Cbor.Passing
import Provenance.Proofs.Metadata.WellFormed

/-!
Records with more entries than are known. An entry with an unknown key may hold
any well-formed item; it may stand at any place among the entries and leaves the
record as it is. Only the key has to be a text in one piece.
-/

namespace Provenance.Metadata

open Cbor

def knownKeys : List String := ["ipfs", "bzzr0", "bzzr1", "solc", "experimental"]

/-- An entry that no record needs: a text that is no known key, and one
well-formed item with valid texts. A key in chunks is not known, whatever it says. -/
inductive UnknownEntry : (inChunks : Bool) → Bytes → Prop
  | whole {key : String} {head content value : Bytes} (hhead : Head 3 content.length head)
      (htext : Utf8.decode? content = some key) (hkey : key ∉ knownKeys)
      (hvalue : Items ValidText 1 value) : UnknownEntry false (head ++ content ++ value)
  | chunked {chunks value : Bytes} (hchunks : Chunks ValidText 3 chunks)
      (hvalue : Items ValidText 1 value) :
      UnknownEntry true (openHead 3 :: (chunks ++ [stopByte]) ++ value)

/-- A place among the entries of a map, behind so many of them. -/
structure Place (inner : Bytes) (index : Nat) (front back : Bytes) : Prop where
  inner_eq : inner = front ++ back
  entries_front : ∃ record, entries {} index inner = .ok (record, back)

theorem item_of_eq_ok {α : Type} {read : Bytes → Except Cbor.Fault α} {bytes : Bytes} {a : α}
    (h : read bytes = .ok a) : item read bytes = .ok a := by
  simp only [item, h, Except.mapError]

theorem expectKind_of_nextKind {expected : Kind} {bytes : Bytes} (key : String)
    (h : nextKind bytes = .ok expected) : expectKind key expected bytes = .ok () := by
  simp only [expectKind, item_of_eq_ok h, bind, Except.bind, if_pos]

/-- A key in one piece is read, and its value is what remains. -/
theorem entry_of_key {head content : Bytes} {key : String} (hhead : Head 3 content.length head)
    (hkey : Utf8.decode? content = some key) (record : Metadata) (rest : Bytes) :
    entry record (head ++ (content ++ rest)) = value record key rest := by
  have hkind : expectKind "key" .text (head ++ (content ++ rest)) = .ok () :=
    expectKind_of_nextKind "key" (hhead.nextKind_append (by simp) _)
  have hread := item_of_eq_ok (hhead.textString_append hkey rest)
  simp only [entry, hkind, hread, bind, Except.bind]

theorem value_of_unknown (record : Metadata) {key : String} (hkey : key ∉ knownKeys)
    {bytes rest : Bytes} (hskip : skip bytes = .ok rest) :
    value record key bytes = .ok (record, rest) := by
  unfold value
  split
  case h_6 =>
    simp only [item, hskip, Except.mapError, bind, Except.bind]
  all_goals exact absurd (by decide) hkey

/-- An unknown entry with a key in one piece is passed over. -/
theorem UnknownEntry.entry_append {bytes : Bytes} (h : UnknownEntry false bytes)
    (hlen : bytes.length < 2 ^ 64 - 1) (record : Metadata) (rest : Bytes) :
    entry record (bytes ++ rest) = .ok (record, rest) := by
  cases h with
  | @whole key head content value hhead htext hkey hvalue =>
    have hpos := List.length_pos_iff.2 hhead.ne_nil
    simp only [List.length_append] at hlen
    have hskip := hvalue.skip_append (by omega) rest
    rw [List.append_assoc, List.append_assoc, entry_of_key hhead htext]
    exact value_of_unknown record hkey hskip

/-- A key in chunks is refused. -/
theorem UnknownEntry.entry_chunked {bytes : Bytes} (h : UnknownEntry true bytes)
    (record : Metadata) (rest : Bytes) :
    entry record (bytes ++ rest) = .error (.wrongKind "key" .text .openText) := by
  cases h with
  | chunked hchunks hvalue => rfl

theorem entries_add (record : Metadata) (first later : Nat) (bytes : Bytes) :
    entries record (first + later) bytes =
      entries record first bytes >>= fun result => entries result.1 later result.2 := by
  induction first generalizing record bytes with
  | zero =>
    rw [Nat.zero_add]
    rfl
  | succ first ih =>
    rw [Nat.add_right_comm, entries, entries]
    cases entry record bytes with
    | error fault => rfl
    | ok result => exact ih result.1 result.2

theorem Head.count_append {n : Nat} {head : Bytes} (h : Head 5 n head) (hpos : 0 < n)
    (hmax : n ≤ maxEntries) (rest : Bytes) : count (head ++ rest) = .ok (n, rest) := by
  have hkind : item nextKind (head ++ rest) = .ok .map :=
    item_of_eq_ok (h.nextKind_append (by simp) rest)
  have hmap := item_of_eq_ok (h.container_append (by decide) rest)
  simp only [count, hkind, mapHead, hmap, bind, Except.bind, hpos, hmax, and_self, if_pos]

/-- A small argument can be written behind the first byte in every width. -/
theorem Head.exists_wide (kind : Nat) {n width : Nat} (hn : n < 256) (hwidth : width < 4) :
    ∃ head, Head kind n head ∧ head.length = 2 ^ width + 1 := by
  have hpos : 0 < 2 ^ width := Nat.two_pow_pos width
  have hzero (k : Nat) : List.foldl (fun acc (b : UInt8) => acc * 256 + b.toNat) 0
      (List.replicate k 0) = 0 := by
    induction k with
    | zero => rfl
    | succ k ih => simpa [List.replicate_succ] using ih
  have hvalue : Bytes.bigEndian (List.replicate (2 ^ width - 1) 0 ++ [UInt8.ofNat n]) = n := by
    rw [Bytes.bigEndian, List.foldl_append, hzero]
    simpa using hn
  have hlength : (List.replicate (2 ^ width - 1) 0 ++ [UInt8.ofNat n]).length = 2 ^ width := by
    rw [List.length_append, List.length_replicate, List.length_singleton]
    omega
  have hwide := @Head.wide kind width _ hwidth hlength
  rw [hvalue] at hwide
  exact ⟨_, hwide, by rw [List.length_cons, hlength]⟩

/-- The head of one entry more, in as many bytes. -/
theorem Head.exists_succ {n : Nat} {head : Bytes} (h : Head 5 n head) (hmax : n < maxEntries) :
    ∃ head', Head 5 (n + 1) head' ∧ head'.length = head.length := by
  unfold maxEntries at hmax
  cases h with
  | short hn => exact ⟨_, .short (show n + 1 < 24 by omega), rfl⟩
  | @wide width digits hwidth hdigits =>
    obtain ⟨head', hhead', hlength⟩ :=
      Head.exists_wide 5 (show digits.bigEndian + 1 < 256 by omega) hwidth
    exact ⟨head', hhead', by rw [hlength, List.length_cons, hdigits]⟩

/-- Where entries are read one after the other, there is a place behind each. -/
theorem exists_place {inner rest : Bytes} {record : Metadata} {n index : Nat}
    (h : entries {} n inner = .ok (record, rest)) (hindex : index ≤ n) :
    ∃ front back, Place inner index front back := by
  obtain ⟨later, rfl⟩ := Nat.exists_eq_add_of_le hindex
  rw [entries_add] at h
  obtain ⟨⟨before, back⟩, hfront, -⟩ := exists_of_bind_eq_ok h
  obtain ⟨front, hbytes, -⟩ := local_entries {} index _ _ _ hfront
  exact ⟨front, back, hbytes, before, hfront⟩

/-- What the entries in front of a place come to does not depend on those behind. -/
theorem Place.entries_append {inner front back : Bytes} {index : Nat}
    (h : Place inner index front back) :
    ∃ before, ∀ rest, entries {} index (front ++ rest) = .ok (before, rest) := by
  obtain ⟨rfl, before, hfront⟩ := h
  obtain ⟨taken, hbytes, htaken⟩ := local_entries {} index _ _ _ hfront
  obtain rfl := List.append_cancel_right hbytes
  exact ⟨before, htaken⟩

/-- The entries with one more among them. -/
theorem Place.entries_insert {inner front back rest : Bytes} {record : Metadata}
    {index n : Nat} (h : Place inner index front back) (more : Bytes) (hindex : index ≤ n)
    (hinner : entries {} n inner = .ok (record, rest)) :
    ∃ before later, entries before later back = .ok (record, rest) ∧
      entries {} (n + 1) (front ++ more) =
        entry before more >>= fun result => entries result.1 later result.2 := by
  obtain ⟨before, hfront⟩ := h.entries_append
  obtain ⟨later, rfl⟩ := Nat.exists_eq_add_of_le hindex
  rw [h.inner_eq, entries_add, hfront] at hinner
  rw [Nat.add_assoc, entries_add, hfront]
  exact ⟨before, later, hinner, rfl⟩

/-- A record with room for one entry more may have an unknown one at any place.
With a key in one piece it is the same record, with a key in chunks it is
refused. -/
theorem decode_insert {bytes : Bytes} {record : Metadata} {size : Nat}
    (h : decode bytes = .ok (record, size)) :
    (∃ n head inner, bytes = head ++ inner ∧ Head 5 n head) ∧
    ∀ {n head inner}, bytes = head ++ inner → Head 5 n head →
      (∀ index ≤ n, ∃ front back, Place inner index front back) ∧
      (n < maxEntries → ∃ head', Head 5 (n + 1) head' ∧ head'.length = head.length) ∧
      ∀ {index front back head' entry inChunks}, index ≤ n → n < maxEntries →
        Place inner index front back → Head 5 (n + 1) head' → head'.length = head.length →
        UnknownEntry inChunks entry → bytes.length + entry.length < 2 ^ 64 →
        decode (head' ++ (front ++ (entry ++ back))) =
          if inChunks then .error (.wrongKind "key" .text .openText)
          else .ok (record, size + entry.length) := by
  obtain ⟨hread, hsize⟩ := decode_eq_ok_iff.1 h
  obtain ⟨⟨n, inner⟩, hcount, hnext⟩ := exists_of_bind_eq_ok hread
  obtain ⟨⟨found, rest⟩, hinner, hknown⟩ := exists_of_bind_eq_ok hnext
  obtain ⟨head, rfl, hhead⟩ := count_eq_ok hcount
  refine ⟨⟨n, head, inner, rfl, hhead⟩, ?_⟩
  intro n' head' inner' hbytes hhead'
  obtain ⟨rfl, rfl, rfl⟩ := hhead'.unique hhead (by decide) hbytes.symm
  refine ⟨fun index => exists_place hinner, Head.exists_succ hhead, ?_⟩
  intro index front back more entry inChunks hindex hmax hplace hmore hlength hentry hlen
  obtain ⟨before, later, hback, hinsert⟩ := hplace.entries_insert (entry ++ back) hindex hinner
  have hcount' := Head.count_append hmore (Nat.succ_pos n) hmax (front ++ (entry ++ back))
  rw [List.length_append] at hlen
  cases inChunks with
  | true =>
    have hrefused := hentry.entry_chunked before back
    simp only [decode, read, hcount', hinsert, hrefused, bind, Except.bind, Except.map, if_pos]
  | false =>
    have hpos := List.length_pos_iff.2 hhead.ne_nil
    have hpassed := hentry.entry_append (by omega) before back
    have hread' : read (more ++ (front ++ (entry ++ back))) =
        .ok (record, (head ++ inner).drop size) := by
      simpa only [read, hcount', hinsert, hpassed, hback, bind, Except.bind] using hknown
    have hfront := congrArg List.length hplace.inner_eq
    simp only [List.length_append] at hfront hsize
    simp only [decode, hread', Except.map, List.length_append, List.length_drop,
      Bool.false_eq_true, if_false, Except.ok.injEq, Prod.mk.injEq, true_and]
    omega

/-- An unknown entry with a value that the walk has to keep a stack for: a marked
open array with an array, a text in chunks and a map in it. -/
theorem decode_insert_nested :
    let bytes : Bytes := [0xA1, 0x64, 0x73, 0x6F, 0x6C, 0x63, 0x43, 0x00, 0x08, 0x09]
    let entry : Bytes := [0x61, 0x61, 0xC1, 0x9F, 0x82, 0x01, 0x7F, 0x61, 0x61, 0xFF, 0xBF,
      0x01, 0xF5, 0xFF, 0xFF]
    UnknownEntry false entry ∧
      decode ([0xA2] ++ (bytes.drop 1 ++ (entry ++ []))) =
        .ok ({ solc := some (.release 0 8 9) }, 25) := by
  intro bytes entry
  have h : decode bytes = .ok ({ solc := some (.release 0 8 9) }, 10) := by decide +kernel
  have hone : Leaf ValidText [0x01] := .number (show 0 < 2 by decide) (@Head.short 0 1 (by decide))
  have hchunk : Chunk ValidText 3 [0x61, 0x61] := @Chunk.mk ValidText 3 [0x61] [0x61]
    (.short (by decide)) fun _ => by rw [ValidText]; decide +kernel
  have hchunked : Leaf ValidText [0x7F, 0x61, 0x61, 0xFF] :=
    .openString (.inr rfl) (.cons hchunk .nil)
  have harray : Holder 2 [0x82] := .array (@Head.short 4 2 (by decide))
  have hmap : Items ValidText 2 [0x01, 0xF5] :=
    .leaf hone (.leaf (leaf_short (show 21 < 24 by decide)) .nil)
  have htag : Holder 1 [0xC1] := .tag (@Head.short 6 1 (by decide))
  have hvalue : Items ValidText 1 (entry.drop 2) :=
    .holder htag (.openArray (.holder harray (.leaf hone (.leaf hchunked .nil))
      (@Items.openMap ValidText 0 1 _ _ hmap .nil)) .nil) .nil
  have hentry : UnknownEntry false entry :=
    @UnknownEntry.whole "a" [0x61] [0x61] (entry.drop 2) (@Head.short 3 1 (by decide))
      (by decide +kernel) (by decide) hvalue
  have hplace : Place (bytes.drop 1) 1 (bytes.drop 1) [] :=
    ⟨rfl, { solc := some (.release 0 8 9) }, by decide +kernel⟩
  have hhead : Head 5 1 [0xA1] := @Head.short 5 1 (by decide)
  have hhead' : Head 5 2 [0xA2] := @Head.short 5 2 (by decide)
  obtain ⟨-, -, hinsert⟩ := (decode_insert h).2 (show bytes = [0xA1] ++ bytes.drop 1 from rfl) hhead
  exact ⟨hentry, hinsert (Nat.le_refl 1) (by decide) hplace hhead' rfl hentry (by decide)⟩

/-- A key in chunks is a text all the same, but the record is refused. -/
theorem chunked_key_refused :
    let bytes : Bytes := [0xA1, 0x64, 0x73, 0x6F, 0x6C, 0x63, 0x43, 0x00, 0x08, 0x09]
    let key : Bytes := [0x7F, 0x61, 0x61, 0xFF]
    decode bytes = .ok ({ solc := some (.release 0 8 9) }, 10) ∧ Leaf ValidText key ∧
      Items ValidText 1 [0x01] ∧ Place (bytes.drop 1) 0 [] (bytes.drop 1) ∧
      decode ([0xA2] ++ ([] ++ (key ++ [0x01] ++ bytes.drop 1))) =
        .error (.wrongKind "key" .text .openText) := by
  intro bytes key
  have hchunk : Chunk ValidText 3 [0x61, 0x61] := @Chunk.mk ValidText 3 [0x61] [0x61]
    (.short (by decide)) fun _ => by rw [ValidText]; decide +kernel
  have hone : Leaf ValidText [0x01] := .number (show 0 < 2 by decide) (@Head.short 0 1 (by decide))
  refine ⟨by decide +kernel, .openString (.inr rfl) (.cons hchunk .nil), .leaf hone .nil, ?_, ?_⟩
  · exact ⟨rfl, {}, rfl⟩
  · decide +kernel

end Provenance.Metadata
