import Mathlib.Data.List.Nodup
import Mathlib.Data.List.Perm.Basic
import Provenance.Proofs.Metadata.Contents

/-!
Entries of a record in another order. They make a record in both orders or in neither,
of the same size and with the same hashes and version: those are given once. A flag may
be given again, and then the last one stands, so that the order shows where two flags of
a record contradict each other.
-/

namespace Provenance.Metadata

open Cbor

variable {fields fields' : List Field}

/-- What is read as an entry to its end is the spelling of one. -/
theorem exists_fields {pieces : List Bytes}
    (h : ∀ piece ∈ pieces, ∃ record, entry {} piece = .ok (record, [])) :
    ∃ fields, List.Forall₂ Field.Spells fields pieces := by
  induction pieces with
  | nil => exact ⟨[], .nil⟩
  | cons piece pieces ih =>
    obtain ⟨record, hentry⟩ := h piece List.mem_cons_self
    obtain ⟨fields, hfields⟩ := ih fun other hother => h other (List.mem_cons_of_mem piece hother)
    obtain ⟨field, taken, hpiece, hfield, -⟩ := entry_eq_ok hentry
    rw [List.append_nil] at hpiece
    exact ⟨field :: fields, .cons (hpiece ▸ hfield) hfields⟩

theorem exists_perm_fields {pieces pieces' : List Bytes} (hperm : pieces.Perm pieces')
    (h : List.Forall₂ Field.Spells fields pieces) :
    ∃ fields', List.Forall₂ Field.Spells fields' pieces' ∧ fields.Perm fields' := by
  obtain ⟨fields', hspelled, hfields⟩ := List.perm_comp_forall₂ hperm.symm h.flip
  exact ⟨fields', hspelled.flip, hfields.symm⟩

theorem slots_perm (h : fields.Perm fields') : (slots fields).Perm (slots fields') :=
  (h.map Field.key).filter _

theorem Admissible.perm (h : Admissible fields) (hperm : fields.Perm fields') :
    Admissible fields' where
  length_le := hperm.length_eq ▸ h.length_le
  distinct := (slots_perm hperm).nodup_iff.1 h.distinct
  known hnil := h.known (List.perm_nil.1 (hnil ▸ slots_perm hperm))

/-- A slot is filled by one entry. -/
theorem eq_of_key_eq (h : (slots fields).Nodup) {field other : Field} (hfield : field ∈ fields)
    (hother : other ∈ fields) (hkey : field.key = other.key) (hslot : field.key ∈ slotKeys) :
    field = other := by
  rw [slots, List.filter_map] at h
  have hkept : field ∈ fields.filter ((· ∈ slotKeys) ∘ Field.key) :=
    List.mem_filter.2 ⟨hfield, by simpa using hslot⟩
  have hkept' : other ∈ fields.filter ((· ∈ slotKeys) ∘ Field.key) :=
    List.mem_filter.2 ⟨hother, by simpa [← hkey] using hslot⟩
  exact List.inj_on_of_nodup_map h hkept hkept' hkey

/-- Without repeated keys, the first entry for a slot is any entry for it. -/
theorem Fills.findSome_eq_some_iff {α : Type} {get : Field → Option α} {key : String}
    (hget : Fills get key) (h : (slots fields).Nodup) {a : α} :
    fields.findSome? get = some a ↔ ∃ field ∈ fields, get field = some a := by
  refine ⟨List.exists_of_findSome?_eq_some, ?_⟩
  rintro ⟨field, hmem, hfield⟩
  have hsome : (fields.findSome? get).isSome = true :=
    List.findSome?_isSome_iff.2 ⟨field, hmem, by rw [hfield, Option.isSome_some]⟩
  obtain ⟨b, hb⟩ := Option.isSome_iff_exists.1 hsome
  obtain ⟨other, hother, hfound⟩ := List.exists_of_findSome?_eq_some hb
  have hkey := (hget.isSome_iff field).1 (by rw [hfield, Option.isSome_some])
  have hkey' := (hget.isSome_iff other).1 (by rw [hfound, Option.isSome_some])
  obtain rfl := eq_of_key_eq h hmem hother (hkey.trans hkey'.symm) (hkey ▸ hget.slot)
  rw [hb, ← hfound, hfield]

theorem Fills.findSome_perm {α : Type} {get : Field → Option α} {key : String}
    (hget : Fills get key) (h : (slots fields).Nodup) (hperm : fields.Perm fields') :
    fields.findSome? get = fields'.findSome? get := by
  refine Option.ext fun a => ?_
  rw [hget.findSome_eq_some_iff h,
    hget.findSome_eq_some_iff ((slots_perm hperm).nodup_iff.1 h)]
  simp only [hperm.mem_iff]

/-- Only the flag depends on the order. -/
theorem contents_perm (h : (slots fields).Nodup) (hperm : fields.Perm fields') :
    contents fields' = { contents fields with experimental := lastFlag fields' } := by
  have hhash (key : HashKey) := (fills_hash key).findSome_perm h hperm
  have hsolc := fills_solc.findSome_perm h hperm
  simp only [contents, hashText, hhash, hsolc]

/-- Flags that agree are told by any of them. -/
theorem lastFlag_iff (h : ∀ flag flag', .experimental flag ∈ fields →
    .experimental flag' ∈ fields → flag = flag') :
    lastFlag fields = true ↔ .experimental true ∈ fields := by
  have hmem (flag : Bool) : flag ∈ fields.filterMap Field.flag? ↔ .experimental flag ∈ fields := by
    rw [List.mem_filterMap]
    constructor
    · rintro ⟨field, hfield, hflag⟩
      cases field with
      | experimental found => exact Option.some.inj hflag ▸ hfield
      | _ => cases hflag
    · exact fun hfield => ⟨_, hfield, rfl⟩
  rw [lastFlag]
  constructor
  · intro hlast
    cases hfound : (fields.filterMap Field.flag?).getLast? with
    | none =>
      rw [hfound] at hlast
      cases hlast
    | some flag =>
      rw [hfound] at hlast
      obtain rfl : flag = true := hlast
      exact (hmem true).1 (List.mem_of_getLast? hfound)
  · intro htrue
    cases hfound : (fields.filterMap Field.flag?).getLast? with
    | none => exact absurd ((hmem true).2 htrue) (by simp [List.getLast?_eq_none_iff.1 hfound])
    | some flag => exact h flag true ((hmem flag).1 (List.mem_of_getLast? hfound)) htrue

/-- Flags that agree are told in any order. -/
theorem lastFlag_perm (hperm : fields.Perm fields')
    (h : ∀ flag flag', .experimental flag ∈ fields →
      .experimental flag' ∈ fields → flag = flag') : lastFlag fields = lastFlag fields' := by
  rw [Bool.eq_iff_iff, lastFlag_iff h, lastFlag_iff, hperm.mem_iff]
  simpa only [hperm.mem_iff] using h

section Decoding

variable {pieces : List Bytes} {head : Bytes} (hhead : Head 5 fields.length head)
  (hfields : List.Forall₂ Field.Spells fields pieces) (rest : Bytes)

include hhead hfields

theorem decode_of_admissible (h : Admissible fields) :
    decode (head ++ (pieces.flatten ++ rest)) =
      .ok (contents fields, head.length + pieces.flatten.length) := by
  have hdrop : (head ++ (pieces.flatten ++ rest)).drop (head.length + pieces.flatten.length) =
      rest := by
    rw [← List.append_assoc, ← List.length_append, List.drop_left]
  rw [decode_eq_ok_iff, hdrop, read_spelled_iff hhead hfields]
  refine ⟨⟨h, rfl, rfl⟩, ?_⟩
  simp only [List.length_append]
  omega

theorem decode_of_not_admissible (h : ¬ Admissible fields) :
    ∃ fault, decode (head ++ (pieces.flatten ++ rest)) = .error fault := by
  cases hdecode : decode (head ++ (pieces.flatten ++ rest)) with
  | error fault => exact ⟨fault, rfl⟩
  | ok result =>
    have hread := (decode_eq_ok_iff.1 hdecode).1
    exact absurd ((read_spelled_iff hhead hfields).1 hread).1 h

end Decoding

/-- Entries in two orders: no record in either, or a record of the same size in both, with
the same hashes and the same version. Each has the flag that its order ends with; if no two
entries say different flags, it is the same one. -/
theorem decode_perm {pieces pieces' : List Bytes} {head : Bytes}
    (hentries : ∀ piece ∈ pieces, ∃ record, entry {} piece = .ok (record, []))
    (hperm : pieces.Perm pieces') (hhead : Head 5 pieces.length head) (rest : Bytes) :
    ∃ fields fields', List.Forall₂ Field.Spells fields pieces ∧
      List.Forall₂ Field.Spells fields' pieces' ∧ fields.Perm fields' ∧
      ((∃ fault fault', decode (head ++ (pieces.flatten ++ rest)) = .error fault ∧
          decode (head ++ (pieces'.flatten ++ rest)) = .error fault') ∨
        ∃ (record : Metadata) (size : Nat), decode (head ++ (pieces.flatten ++ rest)) =
            .ok ({ record with experimental := lastFlag fields }, size) ∧
          decode (head ++ (pieces'.flatten ++ rest)) =
            .ok ({ record with experimental := lastFlag fields' }, size)) ∧
      ((∀ flag flag', .experimental flag ∈ fields → .experimental flag' ∈ fields → flag = flag') →
        lastFlag fields = lastFlag fields') := by
  obtain ⟨fields, hfields⟩ := exists_fields hentries
  obtain ⟨fields', hfields', hordered⟩ := exists_perm_fields hperm hfields
  refine ⟨fields, fields', hfields, hfields', hordered, ?_, lastFlag_perm hordered⟩
  have hhead' : Head 5 fields'.length head := by
    rwa [hfields'.length_eq, ← hperm.length_eq]
  rw [← hfields.length_eq] at hhead
  by_cases h : Admissible fields
  · have hsize : pieces'.flatten.length = pieces.flatten.length := hperm.flatten.length_eq.symm
    have hdecode := decode_of_admissible hhead' hfields' rest (h.perm hordered)
    rw [contents_perm h.distinct hordered, hsize] at hdecode
    exact .inr ⟨contents fields, _, decode_of_admissible hhead hfields rest h, hdecode⟩
  · obtain ⟨fault, hfault⟩ := decode_of_not_admissible hhead hfields rest h
    obtain ⟨fault', hfault'⟩ := decode_of_not_admissible hhead' hfields' rest
      fun h' => h (h'.perm hordered.symm)
    exact .inl ⟨fault, fault', hfault, hfault'⟩

/-- A version, a flag and an unknown entry in two orders. -/
theorem decode_perm_three :
    let solc : Bytes := [0x64, 0x73, 0x6F, 0x6C, 0x63, 0x43, 0x00, 0x08, 0x09]
    let flag : Bytes := [0x6C, 0x65, 0x78, 0x70, 0x65, 0x72, 0x69, 0x6D, 0x65, 0x6E, 0x74, 0x61,
      0x6C, 0xF5]
    let other : Bytes := [0x61, 0x61, 0x82, 0x01, 0x02]
    ∃ fields fields', List.Forall₂ Field.Spells fields [solc, flag, other] ∧
      List.Forall₂ Field.Spells fields' [other, solc, flag] ∧ fields.Perm fields' ∧
      ∃ record : Metadata, decode (0xA3 :: (solc ++ flag ++ other)) =
          .ok ({ record with experimental := lastFlag fields }, 29) ∧
        decode (0xA3 :: (other ++ solc ++ flag)) =
          .ok ({ record with experimental := lastFlag fields' }, 29) := by
  intro solc flag other
  have hentries : ∀ piece ∈ [solc, flag, other], ∃ record, entry {} piece = .ok (record, []) := by
    have hsolc : entry {} solc = .ok ({ solc := some (.release 0 8 9) }, []) := by decide +kernel
    have hflag : entry {} flag = .ok ({ experimental := true }, []) := by decide +kernel
    have hother : entry {} other = .ok ({}, []) := by decide +kernel
    simp only [List.forall_mem_cons, hsolc, hflag, hother]
    simp
  have hperm : [solc, flag, other].Perm [other, solc, flag] := by decide +kernel
  have hdecode : decode (0xA3 :: (solc ++ flag ++ other)) =
      .ok ({ solc := some (.release 0 8 9), experimental := true }, 29) := by decide +kernel
  obtain ⟨fields, fields', hfields, hfields', hordered, hcases, -⟩ :=
    decode_perm hentries hperm (@Head.short 5 3 (by decide)) []
  refine ⟨fields, fields', hfields, hfields', hordered, ?_⟩
  rcases hcases with ⟨fault, fault', hfault, -⟩ | ⟨record, size, hfirst, hsecond⟩
  · exact absurd (hdecode.symm.trans hfault) (by simp)
  · obtain rfl : 29 = size := (Prod.mk.inj (Except.ok.inj (hdecode.symm.trans hfirst))).2
    exact ⟨record, hfirst, hsecond⟩

/-- Two flags that contradict each other make two records of the same entries. -/
theorem flags_order_matters :
    let solc : Bytes := [0x64, 0x73, 0x6F, 0x6C, 0x63, 0x43, 0x00, 0x08, 0x09]
    let yes : Bytes := [0x6C, 0x65, 0x78, 0x70, 0x65, 0x72, 0x69, 0x6D, 0x65, 0x6E, 0x74, 0x61,
      0x6C, 0xF5]
    let no : Bytes := [0x6C, 0x65, 0x78, 0x70, 0x65, 0x72, 0x69, 0x6D, 0x65, 0x6E, 0x74, 0x61,
      0x6C, 0xF4]
    (∀ piece ∈ [solc, yes, no], ∃ record, entry {} piece = .ok (record, [])) ∧
      [solc, yes, no].Perm [solc, no, yes] ∧
      decode (0xA3 :: [solc, yes, no].flatten) = .ok ({ solc := some (.release 0 8 9) }, 38) ∧
      decode (0xA3 :: [solc, no, yes].flatten) =
        .ok ({ solc := some (.release 0 8 9), experimental := true }, 38) := by
  intro solc yes no
  have hsolc : entry {} solc = .ok ({ solc := some (.release 0 8 9) }, []) := by decide +kernel
  have hyes : entry {} yes = .ok ({ experimental := true }, []) := by decide +kernel
  have hno : entry {} no = .ok ({}, []) := by decide +kernel
  refine ⟨?_, by decide +kernel, by decide +kernel, by decide +kernel⟩
  simp only [List.forall_mem_cons, hsolc, hyes, hno]
  simp

end Provenance.Metadata
