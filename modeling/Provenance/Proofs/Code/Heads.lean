import Provenance.Proofs.Code.Scan
import Provenance.Proofs.Metadata.Extension

/-!
Records behind any head. The number of entries stands in the first byte, or in one,
two, four or eight bytes behind it, and the record is the same. A scan looks for heads
of one byte only. So it finds what a scan finds that looks everywhere, unless that one
comes upon a trailer with a longer head.
-/

namespace Provenance

namespace Metadata

open Cbor

/-- The first byte of a head that announces so few entries shows whether it is all
of the head. -/
theorem isRecordHead_iff_length {n : Nat} {head : Bytes} (h : Head 5 n head) (hpos : 0 < n)
    (hmax : n ≤ maxEntries) :
    (∃ first ∈ head.head?, Code.isRecordHead first = true) ↔ head.length = 1 := by
  unfold maxEntries at hmax
  cases h with
  | short hn =>
    have hbyte : (UInt8.ofNat (32 * 5 + n)).toNat = 160 + n := by
      rw [UInt8.toNat_ofNat']
      omega
    simp only [List.head?_cons, Option.mem_some_iff, exists_eq_left', Code.isRecordHead,
      maxEntries, hbyte, List.length_singleton, iff_true, Bool.and_eq_true, decide_eq_true_eq]
    omega
  | @wide width digits hwidth hdigits =>
    have hbyte : (UInt8.ofNat (32 * 5 + 24 + width)).toNat = 184 + width := by
      rw [UInt8.toNat_ofNat']
      omega
    have hlength := Nat.two_pow_pos width
    simp only [List.head?_cons, Option.mem_some_iff, exists_eq_left', Code.isRecordHead,
      maxEntries, hbyte, List.length_cons, hdigits, Bool.and_eq_true, decide_eq_true_eq]
    omega

/-- A record may have any head that announces its number of entries. -/
theorem decode_any_head {bytes : Bytes} {record : Metadata} {size : Nat}
    (h : decode bytes = .ok (record, size)) :
    ∃ n head inner extent, bytes = head ++ inner ∧ size = head.length + extent ∧ Head 5 n head ∧
      0 < n ∧ n ≤ maxEntries ∧
      ∀ head', Head 5 n head' → decode (head' ++ inner) = .ok (record, head'.length + extent) := by
  obtain ⟨hread, hsize⟩ := decode_eq_ok_iff.1 h
  obtain ⟨⟨n, inner⟩, hcount, hnext⟩ := exists_of_bind_eq_ok hread
  obtain ⟨head, rfl, hhead⟩ := count_eq_ok hcount
  obtain ⟨hpos, hmax⟩ := count_bounds hcount
  have hany {head' : Bytes} (hhead' : Head 5 n head') :
      read (head' ++ inner) = .ok (record, (head ++ inner).drop size) := by
    have hcount' := Head.count_append hhead' hpos hmax inner
    simpa only [read, hcount', bind, Except.bind] using hnext
  -- What is read of the entries stands behind the head.
  obtain ⟨⟨found, rest⟩, hentries, hknown⟩ := exists_of_bind_eq_ok hnext
  obtain ⟨taken, rfl, -⟩ := local_entries {} n _ _ _ hentries
  have hrest : rest = (head ++ (taken ++ rest)).drop size := by
    dsimp only at hknown
    split at hknown
    · exact (Prod.mk.inj (Except.ok.inj hknown)).2
    · cases hknown
  have hextent : size = head.length + taken.length := by
    have hlength := congrArg List.length hrest
    simp only [List.length_drop, List.length_append] at hlength hsize
    omega
  refine ⟨n, head, taken ++ rest, taken.length, rfl, hextent, hhead, hpos, hmax, ?_⟩
  intro head' hhead'
  have hread' := hany hhead'
  rw [← hrest] at hread'
  refine decode_eq_ok_iff.2 ⟨?_, ?_⟩
  · rw [hread', ← List.append_assoc, ← List.length_append, List.drop_left]
  · simp only [List.length_append]
    omega

end Metadata

namespace Code

open Cbor

/-- What a scan finds that looks for a trailer behind every byte. -/
def plainTrailers (code : Bytes) : List Trailer := locate 0 (scan (fun _ => true) code)

theorem isScan_plainTrailers (code : Bytes) :
    IsScan (fun _ => true) code 0 (plainTrailers code) :=
  isScan_locate (fun _ => true) [] code

/-- To look for less makes no difference if all that is found is looked for. -/
theorem trailers_eq_plainTrailers_iff (code : Bytes) :
    trailers code = plainTrailers code ↔
      ∀ t ∈ plainTrailers code, ∃ byte ∈ code[t.start]?, isRecordHead byte = true := by
  have hplain := isScan_plainTrailers code
  constructor
  · intro heq t ht
    rw [← heq] at ht
    exact ((trailers_eq_iff.1 rfl).sound t ht).1.head
  · intro hheads
    refine trailers_eq_iff.2 ⟨hplain.ordered, fun t ht => ?_, fun t ht hplace => ?_⟩
    · exact ⟨⟨(hplain.sound t ht).1.toOccursIn, hheads t ht⟩, Nat.zero_le _⟩
    · obtain ⟨byte, hbyte, -⟩ := ht.head
      exact hplain.complete t ⟨ht.toOccursIn, byte, hbyte, rfl⟩ hplace

/-- A record may have a head in one, two, three, five or nine bytes with its number of
entries, and only the first byte of the shortest is looked for. So a scan finds what a
scan finds that looks behind every byte, exactly if that one comes upon no trailer with
a longer head. -/
theorem scan_loses_longer_heads (code : Bytes) :
    (∀ {record : Metadata} {size : Nat}, Metadata.decode code = .ok (record, size) →
      ∃ n head inner extent, code = head ++ inner ∧ size = head.length + extent ∧
        Head 5 n head ∧ 0 < n ∧ n ≤ Metadata.maxEntries ∧
        ((∃ first ∈ code.head?, isRecordHead first = true) ↔ head.length = 1) ∧
        (∀ head', Head 5 n head' →
          Metadata.decode (head' ++ inner) = .ok (record, head'.length + extent)) ∧
        ∀ width < 4, ∃ head', Head 5 n head' ∧ head'.length = 2 ^ width + 1) ∧
    (trailers code = plainTrailers code ↔
      ∀ t ∈ plainTrailers code, ∃ byte ∈ code[t.start]?, isRecordHead byte = true) := by
  refine ⟨fun {record size} h => ?_, trailers_eq_plainTrailers_iff code⟩
  obtain ⟨n, head, inner, extent, rfl, hsize, hhead, hpos, hmax, hany⟩ := Metadata.decode_any_head h
  have hfirst := Metadata.isRecordHead_iff_length hhead hpos hmax
  rw [← List.head?_append_of_ne_nil head hhead.ne_nil] at hfirst
  have hwide {width : Nat} (hwidth : width < 4) :
      ∃ head', Head 5 n head' ∧ head'.length = 2 ^ width + 1 := by
    unfold Metadata.maxEntries at hmax
    exact Metadata.Head.exists_wide 5 (by omega) hwidth
  exact ⟨n, head, inner, extent, rfl, hsize, hhead, hpos, hmax, hfirst, hany, fun _ => hwide⟩

/-- A record with its number of entries behind the first byte is read as it is with a
shorter head, and as a trailer it is found by looking everywhere, but not by a scan. -/
theorem longer_head_lost :
    let inner : Bytes := [0x64, 0x73, 0x6F, 0x6C, 0x63, 0x43, 0x00, 0x08, 0x09]
    let record : Metadata := { solc := some (.release 0 8 9) }
    let code : Bytes := [0xB8, 0x01] ++ inner ++ [0x00, 0x0B]
    Metadata.decode ([0xB8, 0x01] ++ inner) = .ok (record, 11) ∧
      Metadata.decode ([0xA1] ++ inner) = .ok (record, 10) ∧
      isRecordHead 0xB8 = false ∧ plainTrailers code = [⟨0, 13, record⟩] ∧ trailers code = [] ∧
      trailers code ≠ plainTrailers code := by
  intro inner record code
  have h : Metadata.decode ([0xB8, 0x01] ++ inner) = .ok (record, 11) := by decide +kernel
  have hplain : plainTrailers code = [⟨0, 13, record⟩] := by decide +kernel
  obtain ⟨hread, -⟩ := scan_loses_longer_heads ([0xB8, 0x01] ++ inner)
  obtain ⟨-, hscan⟩ := scan_loses_longer_heads code
  obtain ⟨n, head, inner', extent, hbytes, hsize, hhead, -, -, -, hany, -⟩ := hread h
  have hlong : Head 5 1 [0xB8, 0x01] := @Head.wide 5 0 [0x01] (by decide) rfl
  obtain ⟨rfl, rfl, rfl⟩ := hhead.unique hlong (by decide) hbytes.symm
  obtain rfl : extent = 9 := (Nat.add_left_cancel hsize).symm
  refine ⟨h, hany [0xA1] (@Head.short 5 1 (by decide)), rfl, hplain, by decide +kernel,
    fun heq => ?_⟩
  obtain ⟨first, hfirst, hlooks⟩ := hscan.1 heq _ (hplain ▸ List.mem_singleton_self _)
  obtain rfl : 0xB8 = first := Option.some.inj hfirst
  cases hlooks

end Code

end Provenance
