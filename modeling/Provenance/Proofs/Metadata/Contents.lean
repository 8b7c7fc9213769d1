import Mathlib.Data.List.Induction
import Provenance.Proofs.Metadata.Fields
import Provenance.Proofs.Text.Numerals

/-!
What a record holds. Its entries are one to eight, with no hash and no version given
twice and at least one of them given; the record is made of what they say, and of
several flags the last counts. Bytes are read as a record exactly if their front is
spelled in this way, and other hashes or versions make another record.
-/

namespace Provenance.Metadata

open Cbor

namespace Field

def hash? (key : HashKey) : Field → Option Bytes
  | .hash found content => if found = key then some content else none
  | _ => none

def solc? : Field → Option SolcVersion
  | .solc version => some version
  | _ => none

def flag? : Field → Option Bool
  | .experimental flag => some flag
  | _ => none

end Field

/-- The keys that make a record known. Each may occur once. -/
def slotKeys : List String := ["ipfs", "bzzr0", "bzzr1", "solc"]

def slots (fields : List Field) : List String := (fields.map Field.key).filter (· ∈ slotKeys)

def lastFlag (fields : List Field) : Bool := (fields.filterMap Field.flag?).getLast?.getD false

def hashText (fields : List Field) (key : HashKey) : Option String :=
  (fields.findSome? (Field.hash? key)).map key.path

def contents (fields : List Field) : Metadata where
  ipfs := hashText fields .ipfs
  bzzr0 := hashText fields .bzzr0
  bzzr1 := hashText fields .bzzr1
  solc := fields.findSome? Field.solc?
  experimental := lastFlag fields

structure Admissible (fields : List Field) : Prop where
  length_le : fields.length ≤ maxEntries
  distinct : (slots fields).Nodup
  known : slots fields ≠ []

/-- The bytes of a record with these entries. The head may have any width. -/
structure Describes (fields : List Field) (bytes : Bytes) : Prop extends Admissible fields where
  spelled : ∃ head pieces, bytes = head ++ List.flatten pieces ∧ Head 5 fields.length head ∧
    List.Forall₂ Field.Spells fields pieces

structure Fills {α : Type} (get : Field → Option α) (key : String) : Prop where
  slot : key ∈ slotKeys
  isSome_iff : ∀ field, (get field).isSome = true ↔ field.key = key

theorem HashKey.name_injective : Function.Injective HashKey.name := by
  intro a b h
  revert h
  cases a <;> cases b <;> decide

theorem slotKeys_subset_knownKeys {key : String} (h : key ∈ slotKeys) : key ∈ knownKeys := by
  simp only [slotKeys, knownKeys, List.mem_cons, List.not_mem_nil, or_false] at h ⊢
  tauto

theorem HashKey.name_mem_slotKeys (key : HashKey) : key.name ∈ slotKeys := by
  cases key <;> decide

theorem fills_hash (key : HashKey) : Fills (Field.hash? key) key.name := by
  refine ⟨key.name_mem_slotKeys, fun field => ?_⟩
  cases field with
  | hash found content =>
    simp only [Field.hash?, Field.key, HashKey.name_injective.eq_iff]
    split <;> simp_all
  | solc version => cases key <;> simp [Field.hash?, Field.key, HashKey.name]
  | experimental flag => cases key <;> simp [Field.hash?, Field.key, HashKey.name]
  | unknown found hfound value =>
    refine iff_of_false (by simp [Field.hash?]) ?_
    rintro rfl
    exact hfound (slotKeys_subset_knownKeys key.name_mem_slotKeys)

theorem fills_solc : Fills Field.solc? "solc" := by
  refine ⟨by decide, fun field => ?_⟩
  cases field with
  | hash found content => cases found <;> simp [Field.solc?, Field.key, HashKey.name]
  | solc version => simp [Field.solc?, Field.key]
  | experimental flag => simp [Field.solc?, Field.key]
  | unknown found hfound value =>
    refine iff_of_false (by simp [Field.solc?]) ?_
    rintro rfl
    exact hfound (by decide)

/-- A slot is filled exactly if its key occurs. -/
theorem Fills.isSome_findSome {α : Type} {get : Field → Option α} {key : String}
    (h : Fills get key) (fields : List Field) :
    (fields.findSome? get).isSome = true ↔ key ∈ slots fields := by
  simp only [List.findSome?_isSome_iff, h.isSome_iff, slots, List.mem_filter, List.mem_map,
    h.slot, decide_true, and_true]

theorem Fills.findSome_eq_none {α : Type} {get : Field → Option α} {key : String}
    (h : Fills get key) (fields : List Field) :
    fields.findSome? get = none ↔ key ∉ slots fields := by
  rw [← h.isSome_findSome, Bool.not_eq_true, Option.isSome_eq_false_iff, Option.isNone_iff_eq_none]

section Putting

variable (fields : List Field)

theorem slots_append_singleton (field : Field) : slots (fields ++ [field]) =
    slots fields ++ if field.key ∈ slotKeys then [field.key] else [] := by
  simp only [slots, List.map_append, List.filter_append, List.map_cons, List.map_nil,
    List.filter_cons, List.filter_nil, decide_eq_true_eq]

/-- A key that fills a slot must not have occurred. -/
theorem slots_append_nodup (field : Field) : (slots (fields ++ [field])).Nodup ↔
    (slots fields).Nodup ∧ (field.key ∈ slotKeys → field.key ∉ slots fields) := by
  rw [slots_append_singleton]
  split
  · rename_i hslot
    simp only [List.nodup_append, List.nodup_singleton, true_and, List.mem_singleton,
      forall_eq, hslot, true_implies]
    exact and_congr_right fun _ => ⟨fun h hmem => h _ hmem rfl, fun h a ha heq => h (heq ▸ ha)⟩
  · rename_i hslot
    simp only [List.append_nil, hslot, false_implies, and_true]

theorem map_setOnce_eq_ok_iff {α : Type} {key : String} {slot : Option α} {value : α}
    {f : Option α → Metadata} {record : Metadata} :
    (setOnce key slot value).map f = .ok record ↔ slot = none ∧ record = f (some value) := by
  cases slot with
  | none => simp only [setOnce, Except.map, Except.ok.injEq, true_and, eq_comm]
  | some old => simp [setOnce, Except.map]

theorem HashKey.slot_contents (key : HashKey) :
    key.slot (contents fields) = hashText fields key := by
  cases key with
  | ipfs => rfl
  | bzzr0 => rfl
  | bzzr1 => rfl

theorem hashText_eq_none (key : HashKey) :
    hashText fields key = none ↔ key.name ∉ slots fields := by
  rw [hashText, Option.map_eq_none_iff, (fills_hash key).findSome_eq_none]

theorem hashText_append_singleton (field : Field) (key : HashKey) :
    hashText (fields ++ [field]) key =
      (hashText fields key).or ((field.hash? key).map key.path) := by
  rw [hashText, hashText, List.findSome?_append, Option.map_or, List.findSome?_singleton]

theorem lastFlag_append_singleton (field : Field) :
    lastFlag (fields ++ [field]) = field.flag?.getD (lastFlag fields) := by
  rw [lastFlag, lastFlag, List.filterMap_append]
  cases hflag : field.flag? with
  | none =>
    rw [List.filterMap_cons_none hflag, List.filterMap_nil, List.append_nil, Option.getD_none]
  | some flag =>
    rw [List.filterMap_cons_some hflag, List.filterMap_nil, List.getLast?_concat, Option.getD_some,
      Option.getD_some]

/-- What one entry more makes of a record. -/
theorem contents_append_singleton (field : Field) :
    contents (fields ++ [field]) =
      { ipfs := (hashText fields .ipfs).or ((field.hash? .ipfs).map ipfsPath)
        bzzr0 := (hashText fields .bzzr0).or ((field.hash? .bzzr0).map (swarmPath "bzzr0"))
        bzzr1 := (hashText fields .bzzr1).or ((field.hash? .bzzr1).map (swarmPath "bzzr1"))
        solc := (fields.findSome? Field.solc?).or field.solc?
        experimental := field.flag?.getD (lastFlag fields) } := by
  simp only [contents, hashText_append_singleton, lastFlag_append_singleton, HashKey.path,
    List.findSome?_append, List.findSome?_singleton]

/-- Putting the next entry into the record of the others fails exactly if its slot is filled. -/
theorem put_contents_eq_ok_iff (field : Field) {record : Metadata} :
    field.put (contents fields) = .ok record ↔
      (field.key ∈ slotKeys → field.key ∉ slots fields) ∧
        record = contents (fields ++ [field]) := by
  rw [contents_append_singleton]
  cases field with
  | hash key content =>
    rw [Field.put, map_setOnce_eq_ok_iff, key.slot_contents]
    simp only [Field.key, key.name_mem_slotKeys, true_implies, ← hashText_eq_none]
    refine and_congr_right fun hnone => ?_
    cases key <;> simp [hnone, HashKey.fill, contents, Field.hash?, Field.solc?, Field.flag?,
      HashKey.path]
  | solc version =>
    rw [Field.put, map_setOnce_eq_ok_iff]
    have hslot : "solc" ∈ slotKeys := by decide
    simp only [Field.key, hslot, true_implies, ← fills_solc.findSome_eq_none]
    refine and_congr_right fun hnone => ?_
    rw [contents] at hnone
    dsimp only at hnone
    simp [hnone, contents, Field.hash?, Field.solc?, Field.flag?]
  | experimental flag =>
    have hslot : "experimental" ∉ slotKeys := by decide
    simp [Field.put, Field.key, hslot, contents, Field.hash?, Field.solc?, Field.flag?, eq_comm]
  | unknown key hkey value =>
    have hslot : key ∉ slotKeys := fun h => hkey (slotKeys_subset_knownKeys h)
    simp [Field.put, Field.key, hslot, contents, Field.hash?, Field.solc?, Field.flag?, eq_comm]

end Putting

/-- Entries are put into a record one after the other, unless a slot is filled twice. -/
theorem puts_eq_ok_iff (fields : List Field) {record : Metadata} :
    fields.foldlM Field.put {} = .ok record ↔ (slots fields).Nodup ∧ record = contents fields := by
  induction fields using List.reverseRecOn generalizing record with
  | nil =>
    have hnodup : (slots []).Nodup := List.nodup_nil
    simp only [hnodup, true_and]
    exact ⟨fun h => (Except.ok.inj h).symm, fun h => congrArg Except.ok h.symm⟩
  | append_singleton fields field ih =>
    rw [List.foldlM_append, slots_append_nodup, and_assoc, ← put_contents_eq_ok_iff]
    constructor
    · intro h
      obtain ⟨before, hbefore, hput⟩ := exists_of_bind_eq_ok h
      obtain ⟨hnodup, rfl⟩ := ih.1 hbefore
      rw [List.foldlM_cons] at hput
      obtain ⟨after, hafter, heq⟩ := exists_of_bind_eq_ok hput
      cases heq
      exact ⟨hnodup, hafter⟩
    · rintro ⟨hnodup, hput⟩
      rw [ih.2 ⟨hnodup, rfl⟩]
      change field.put (contents fields) >>= _ = _
      rw [hput]
      rfl

theorem isKnown_contents (fields : List Field) :
    (contents fields).isKnown = true ↔ slots fields ≠ [] := by
  have hipfs := (fills_hash .ipfs).isSome_findSome fields
  have hbzzr0 := (fills_hash .bzzr0).isSome_findSome fields
  have hbzzr1 := (fills_hash .bzzr1).isSome_findSome fields
  have hsolc := fills_solc.isSome_findSome fields
  simp only [isKnown, contents, hashText, Option.isSome_map, Bool.or_eq_true, hipfs, hbzzr0,
    hbzzr1, hsolc, HashKey.name]
  constructor
  · rintro (((h | h) | h) | h) <;> exact List.ne_nil_of_mem h
  · intro h
    obtain ⟨key, hkey⟩ := List.exists_mem_of_ne_nil _ h
    have hslot := List.of_mem_filter hkey
    simp only [slotKeys, List.mem_cons, List.not_mem_nil, or_false, decide_eq_true_eq] at hslot
    rcases hslot with rfl | rfl | rfl | rfl <;> simp only [hkey, true_or, or_true]

/-- Entries behind a head are read exactly if they make a record, and then as that record. -/
theorem read_spelled_iff {fields : List Field} {pieces : List Bytes} {head : Bytes}
    (hhead : Head 5 fields.length head) (hfields : List.Forall₂ Field.Spells fields pieces)
    {rest later : Bytes} {record : Metadata} :
    read (head ++ (pieces.flatten ++ rest)) = .ok (record, later) ↔
      Admissible fields ∧ record = contents fields ∧ later = rest := by
  constructor
  · intro h
    obtain ⟨⟨n, inner⟩, hcount, hnext⟩ := exists_of_bind_eq_ok h
    obtain ⟨⟨found, mid⟩, hentries, hknown⟩ := exists_of_bind_eq_ok hnext
    obtain ⟨head', hbytes, hhead'⟩ := count_eq_ok hcount
    obtain ⟨rfl, rfl, rfl⟩ := hhead'.unique hhead (by decide) hbytes.symm
    rw [entries_append hfields] at hentries
    obtain ⟨made, hmade, heq⟩ := exists_of_map_eq_ok hentries
    cases heq
    obtain ⟨hnodup, rfl⟩ := (puts_eq_ok_iff fields).1 hmade
    dsimp only at hknown
    split at hknown
    · rename_i hisKnown
      cases hknown
      exact ⟨⟨(count_bounds hcount).2, hnodup, (isKnown_contents fields).1 hisKnown⟩, rfl, rfl⟩
    · cases hknown
  · rintro ⟨hadmissible, rfl, rfl⟩
    have hne : fields ≠ [] := fun h => hadmissible.known (by rw [h]; rfl)
    have hcount := Head.count_append hhead (List.length_pos_iff.2 hne) hadmissible.length_le
      (pieces.flatten ++ later)
    have hputs := (puts_eq_ok_iff fields).2 ⟨hadmissible.distinct, rfl⟩
    simp only [read, hcount, entries_append hfields, hputs, Except.map, bind, Except.bind,
      (isKnown_contents fields).2 hadmissible.known, if_pos]

/-- The hash behind a key has the size that goes with it. -/
theorem length_of_findSome_hash {fields : List Field} {pieces : List Bytes}
    (h : List.Forall₂ Field.Spells fields pieces) {key : HashKey} {content : Bytes}
    (hcontent : fields.findSome? (Field.hash? key) = some content) : content.length = key.size := by
  induction h with
  | nil => cases hcontent
  | @cons field piece fields pieces hfield _ ih =>
    rw [List.findSome?_cons] at hcontent
    cases hhash : field.hash? key with
    | none => exact ih (by simpa only [hhash] using hcontent)
    | some found =>
      obtain rfl : found = content := by simpa only [hhash, Option.some.injEq] using hcontent
      obtain ⟨-, -, hvalue⟩ := hfield
      cases hvalue with
      | @hash key' content head hhead hsize =>
        obtain ⟨rfl, rfl⟩ : key' = key ∧ content = found := by
          simpa only [Field.hash?, Option.ite_none_right_eq_some, Option.some.injEq] using hhash
        exact hsize
      | _ => cases hhash

theorem HashKey.path_inj (key : HashKey) {a b : Bytes} (ha : a.length = key.size)
    (hb : b.length = key.size) (h : key.path a = key.path b) : a = b := by
  cases key with
  | ipfs => exact Base58.eq_of_encode_eq (ha.trans hb.symm) ((String.append_right_inj _).1 h)
  | bzzr0 => exact Hex.encode_injective ((String.append_right_inj _).1 h)
  | bzzr1 => exact Hex.encode_injective ((String.append_right_inj _).1 h)

/-- The text of a hash gives it back. -/
theorem findSome_hash_eq_of_hashText_eq {fields fields' : List Field} {pieces pieces' : List Bytes}
    (h : List.Forall₂ Field.Spells fields pieces) (h' : List.Forall₂ Field.Spells fields' pieces')
    {key : HashKey} (htext : hashText fields key = hashText fields' key) :
    fields.findSome? (Field.hash? key) = fields'.findSome? (Field.hash? key) := by
  unfold hashText at htext
  cases hhash : fields.findSome? (Field.hash? key) with
  | none =>
    rw [hhash, Option.map_none, eq_comm, Option.map_eq_none_iff] at htext
    exact htext.symm
  | some content =>
    rw [hhash, Option.map_some, eq_comm, Option.map_eq_some_iff] at htext
    obtain ⟨content', hhash', hpath⟩ := htext
    obtain rfl := key.path_inj (length_of_findSome_hash h' hhash') (length_of_findSome_hash h hhash)
      hpath
    exact hhash'.symm

theorem contents_eq_iff {fields fields' : List Field} {pieces pieces' : List Bytes}
    (h : List.Forall₂ Field.Spells fields pieces) (h' : List.Forall₂ Field.Spells fields' pieces') :
    contents fields = contents fields' ↔
      (∀ key, fields.findSome? (Field.hash? key) = fields'.findSome? (Field.hash? key)) ∧
      fields.findSome? Field.solc? = fields'.findSome? Field.solc? ∧
      lastFlag fields = lastFlag fields' := by
  constructor
  · intro heq
    refine ⟨fun key => findSome_hash_eq_of_hashText_eq h h' ?_, congrArg Metadata.solc heq,
      congrArg Metadata.experimental heq⟩
    rw [← key.slot_contents, heq, key.slot_contents]
  · rintro ⟨hhash, hsolc, hflag⟩
    simp only [contents, hashText, hhash, hsolc, hflag]

/-- Bytes are read as a record exactly if their front is the bytes of one. -/
theorem decode_iff_describes {bytes : Bytes} {record : Metadata} {size : Nat} :
    decode bytes = .ok (record, size) ↔ size ≤ bytes.length ∧
      ∃ fields, Describes fields (bytes.take size) ∧ record = contents fields := by
  rw [decode_eq_ok_iff, and_comm]
  refine and_congr_right fun _ => ⟨fun h => ?_, ?_⟩
  · obtain ⟨⟨n, inner⟩, hcount, hnext⟩ := exists_of_bind_eq_ok h
    obtain ⟨⟨found, mid⟩, hentries, -⟩ := exists_of_bind_eq_ok hnext
    obtain ⟨head, hbytes, hhead⟩ := count_eq_ok hcount
    obtain ⟨fields, pieces, rfl, rfl, hfields, -⟩ := entries_eq_ok hentries
    rw [hbytes, read_spelled_iff hhead hfields] at h
    obtain ⟨hadmissible, rfl, hrest⟩ := h
    rw [← hbytes] at hrest
    have hsplit : bytes.take size ++ mid = (head ++ pieces.flatten) ++ mid := by
      rw [List.append_assoc, ← hbytes, ← hrest, List.take_append_drop]
    refine ⟨fields, ⟨hadmissible, head, pieces, ?_, hhead, hfields⟩, rfl⟩
    exact List.append_cancel_right hsplit
  · rintro ⟨fields, ⟨hadmissible, head, pieces, hbytes, hhead, hfields⟩, rfl⟩
    have h : read (head ++ (pieces.flatten ++ bytes.drop size)) =
        .ok (contents fields, bytes.drop size) :=
      (read_spelled_iff hhead hfields).2 ⟨hadmissible, rfl, rfl⟩
    rwa [← List.append_assoc, ← hbytes, List.take_append_drop] at h

/-- What is read as a record is the bytes of one, and the record is what its entries say:
each hash as its text, the version, and the last flag. Nothing of a hash or a version is
lost. -/
theorem decode_eq_ok_iff_describes :
    (∀ {bytes : Bytes} {record : Metadata} {size : Nat},
      decode bytes = .ok (record, size) ↔ size ≤ bytes.length ∧
        ∃ fields, Describes fields (bytes.take size) ∧ record = contents fields) ∧
    ∀ {fields fields' : List Field} {bytes bytes' : Bytes},
      Describes fields bytes → Describes fields' bytes' →
      (contents fields = contents fields' ↔
        (∀ key, fields.findSome? (Field.hash? key) = fields'.findSome? (Field.hash? key)) ∧
        fields.findSome? Field.solc? = fields'.findSome? Field.solc? ∧
        lastFlag fields = lastFlag fields') := by
  refine ⟨decode_iff_describes, fun hfields hfields' => ?_⟩
  obtain ⟨_, _, _, _, hspelled⟩ := hfields.spelled
  obtain ⟨_, _, _, _, hspelled'⟩ := hfields'.spelled
  exact contents_eq_iff hspelled hspelled'

/-- A version, then two flags and what no record needs. -/
example : contents [.solc (.release 0 8 9), .experimental true, .experimental false,
    .unknown "a" (by decide) [0x01]] = { solc := some (.release 0 8 9) } := rfl

end Provenance.Metadata
