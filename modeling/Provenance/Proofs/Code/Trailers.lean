import Provenance.Code.Trailer
import Provenance.Proofs.Metadata.Locality

/-!
What a scan finds. Each trailer of the scan is a record at its place, followed
by the size of the record in two bytes, and it ends inside the code.
-/

namespace Provenance.Code

namespace Trailer

def size (t : Trailer) : Nat := t.stop - t.start - suffixSize

/-- The record at the start of the trailer takes the bytes up to the two that
give its size. -/
structure OccursIn (t : Trailer) (code : Bytes) : Prop where
  decoded : Metadata.decode (code.drop t.start) = .ok (t.record, t.size)
  stop_eq : t.stop = t.start + t.size + suffixSize
  stop_le : t.stop ≤ code.length
  suffix : Bytes.bigEndian ((code.drop (t.start + t.size)).take suffixSize) = t.size

end Trailer

theorem bigEndian_pair (high low : UInt8) :
    Bytes.bigEndian [high, low] = high.toNat * 256 + low.toNat := by
  simp [Bytes.bigEndian]

/-- A trailer begins the code exactly if a record does whose size stands behind
it. -/
theorem trailer?_eq_some_iff {code : Bytes} {record : Metadata} {total : Nat} :
    trailer? code = some (record, total) ↔
      ∃ n, Metadata.decode code = .ok (record, n) ∧ total = n + suffixSize ∧
        total ≤ code.length ∧ Bytes.bigEndian ((code.drop n).take suffixSize) = n := by
  constructor
  · intro h
    unfold trailer? at h
    split at h
    · cases h
    · rename_i found rest hr
      have hd : Metadata.decode code = .ok (found, code.length - rest.length) := by
        simp only [Metadata.decode, hr, Except.map]
      have hrest : rest = code.drop (code.length - rest.length) := by
        have := (Metadata.decode_eq_ok_iff.1 hd).1
        rw [hr] at this
        exact (Prod.mk.inj (Except.ok.inj this)).2
      dsimp only at h
      split at h
      · rename_i high low later
        split at h
        · rename_i hsize
          simp only [Option.some.injEq, Prod.mk.injEq] at h
          obtain ⟨rfl, rfl⟩ := h
          refine ⟨_, hd, rfl, ?_, ?_⟩
          · have hlen := congrArg List.length hrest
            simp only [List.length_cons, List.length_drop] at hlen
            simp only [List.length_cons, suffixSize]
            omega
          · rw [← hrest]
            simpa only [suffixSize, List.take_succ_cons, List.take_zero, bigEndian_pair] using hsize
        · cases h
      · cases h
  · rintro ⟨n, hd, rfl, hlen, hsuffix⟩
    obtain ⟨hr, hn⟩ := Metadata.decode_eq_ok_iff.1 hd
    have hdrop : 2 ≤ (code.drop n).length := by
      simp only [List.length_drop]
      unfold suffixSize at hlen
      omega
    obtain ⟨high, low, later, hrest⟩ : ∃ high low later, code.drop n = high :: low :: later := by
      generalize code.drop n = back at hdrop
      rcases back with _ | ⟨high, _ | ⟨low, later⟩⟩
      · simp at hdrop
      · simp at hdrop
      · exact ⟨high, low, later, rfl⟩
    rw [hrest, suffixSize, List.take_succ_cons, List.take_succ_cons, List.take_zero,
      bigEndian_pair] at hsuffix
    have hsize : code.length - (high :: low :: later).length = n := by
      rw [← hrest, List.length_drop]
      omega
    unfold trailer?
    rw [hr, hrest]
    simp only [hsize, if_pos hsuffix]

theorem headedTrailer?_eq_some_iff {code : Bytes} {found : Metadata × Nat} :
    headedTrailer? code = some found ↔
      (∃ head ∈ code.head?, isRecordHead head = true) ∧ trailer? code = some found := by
  cases code with
  | nil => simp [headedTrailer?]
  | cons head tail => by_cases h : isRecordHead head = true <;> simp [headedTrailer?, h]

/-- A trailer part of code is a record with its size, read where the part
begins. -/
theorem parts_eq_cons_trailer {code : Bytes} {record : Metadata} {content : Bytes}
    {later : List Part} (h : parts code = .trailer record content :: later) :
    trailer? code = some (record, content.length) ∧ code = content ++ code.drop content.length ∧
      later = parts (code.drop content.length) := by
  cases code with
  | nil => simp [parts] at h
  | cons head rest =>
    unfold parts at h
    split at h
    · rename_i found size hfound
      simp only [List.cons.injEq, Part.trailer.injEq] at h
      obtain ⟨⟨rfl, rfl⟩, rfl⟩ := h
      have htrailer := (headedTrailer?_eq_some_iff.1 hfound).2
      obtain ⟨-, -, -, hlen, -⟩ := trailer?_eq_some_iff.1 htrailer
      have hsize : (head :: rest.take size).length = size + 1 := by
        simp only [List.length_cons, List.length_take] at hlen ⊢
        omega
      rw [hsize]
      exact ⟨htrailer, by simp, rfl⟩
    · simp at h

theorem trailer_occursIn {before code : Bytes} {record : Metadata} {total : Nat}
    (h : trailer? code = some (record, total)) :
    Trailer.OccursIn ⟨before.length, before.length + total, record⟩ (before ++ code) := by
  obtain ⟨n, hd, rfl, hlen, hsuffix⟩ := trailer?_eq_some_iff.1 h
  have hsize : Trailer.size ⟨before.length, before.length + (n + suffixSize), record⟩ = n := by
    simp only [Trailer.size]
    omega
  refine ⟨?_, ?_, ?_, ?_⟩
  · rw [hsize]
    simpa using hd
  · rw [hsize]
    exact (Nat.add_assoc ..).symm
  · rw [List.length_append]
    exact Nat.add_le_add_left hlen _
  · rw [hsize, List.drop_append, List.drop_eq_nil_of_le (Nat.le_add_right ..)]
    simpa using hsuffix

/-- By induction on the parts, with the code that has been passed in front. -/
theorem occursIn_of_mem_locate (before : Bytes) {code : Bytes} {t : Trailer}
    (h : t ∈ locate before.length (parts code)) : t.OccursIn (before ++ code) := by
  generalize hparts : parts code = ps at h
  induction ps generalizing before code with
  | nil => simp [locate] at h
  | cons p ps ih =>
    cases p with
    | main byte =>
      cases code with
      | nil => simp [parts] at hparts
      | cons head rest =>
        unfold parts at hparts
        split at hparts
        · simp at hparts
        · obtain ⟨-, hrest⟩ := List.cons.inj hparts
          have hmem : t ∈ locate (before ++ [head]).length ps := by
            simpa only [locate, List.length_append, List.length_singleton] using h
          simpa using ih (before ++ [head]) hrest hmem
    | trailer record content =>
      obtain ⟨htrailer, hcode, hps⟩ := parts_eq_cons_trailer hparts
      rcases List.mem_cons.1 h with rfl | h
      · exact trailer_occursIn htrailer
      · have hmem : t ∈ locate (before ++ content).length ps := by
          rwa [List.length_append]
        have hrest := ih (before ++ content) hps.symm hmem
        rwa [List.append_assoc, ← hcode] at hrest

/-- Every trailer that a scan finds is one. -/
theorem occursIn_of_mem_trailers {code : Bytes} {t : Trailer} (h : t ∈ trailers code) :
    t.OccursIn code := by
  simpa using occursIn_of_mem_locate [] h

end Provenance.Code
