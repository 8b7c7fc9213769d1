import Provenance.Proofs.Code.Trailers

/-!
Stripping as a whole. Every pass cuts out the trailers of one scan; the bytes
on both sides of a cut may join into a new trailer, so passes go on until a
scan finds none. What is left has no trailer, and every byte that is missing
belongs to a trailer whose record is returned.
-/

namespace Provenance.Code

def cut (position : Nat) (code : Bytes) : List Trailer → Bytes
  | [] => code.drop position
  | t :: ts => (code.take t.start).drop position ++ cut t.stop code ts

theorem le_start_of_mem_locate {offset : Nat} {ps : List Part} {t : Trailer}
    (h : t ∈ locate offset ps) : offset ≤ t.start := by
  induction ps generalizing offset with
  | nil => simp [locate] at h
  | cons p ps ih =>
    cases p with
    | main byte => exact Nat.le_of_succ_le (ih h)
    | trailer record content =>
      rcases List.mem_cons.1 h with rfl | h
      · exact Nat.le_refl _
      · exact Nat.le_trans (Nat.le_add_right ..) (ih h)

/-- A byte in front of all the places is kept. -/
theorem cut_eq_cons {position : Nat} {code : Bytes} {ts : List Trailer}
    (hposition : position < code.length) (hts : ∀ t ∈ ts, position < t.start) :
    cut position code ts = code[position] :: cut (position + 1) code ts := by
  cases ts with
  | nil => exact List.drop_eq_getElem_cons hposition
  | cons t ts =>
    have hlen : position < (code.take t.start).length := by
      have := hts t List.mem_cons_self
      simp only [List.length_take]
      omega
    simp only [cut]
    rw [List.drop_eq_getElem_cons hlen, List.getElem_take, List.cons_append]

theorem cut_locate (before code : Bytes) :
    cut before.length (before ++ code) (locate before.length (parts code)) =
      (parts code).flatMap Part.kept := by
  generalize hparts : parts code = ps
  induction ps generalizing before code with
  | nil =>
    have hcode := flatMap_bytes_parts code
    rw [hparts] at hcode
    simp [locate, cut, ← hcode]
  | cons p ps ih =>
    cases p with
    | main byte =>
      obtain ⟨rest, rfl, hrest⟩ : ∃ rest, code = byte :: rest ∧ parts rest = ps := by
        cases code with
        | nil => simp [parts] at hparts
        | cons head rest =>
          unfold parts at hparts
          split at hparts
          · simp at hparts
          · obtain ⟨hhead, hrest⟩ := List.cons.inj hparts
            exact ⟨rest, by rw [Part.main.inj hhead], hrest⟩
      have hnext := ih (before ++ [byte]) rest hrest
      simp only [List.length_append, List.length_singleton, List.append_assoc,
        List.singleton_append] at hnext
      simp only [locate, List.flatMap_cons, Part.kept, List.singleton_append]
      rw [cut_eq_cons (by simp) fun t ht => le_start_of_mem_locate ht, hnext]
      simp
    | trailer record content =>
      obtain ⟨-, hcode, hps⟩ := parts_eq_cons_trailer hparts
      have hnext := ih (before ++ content) _ hps.symm
      rw [List.append_assoc, ← hcode, List.length_append] at hnext
      simp only [locate, cut, List.flatMap_cons, Part.kept, List.nil_append, hnext]
      simp

/-- A pass takes out the places that its scan finds. -/
theorem stripOnce_eq_cut (code : Bytes) : stripOnce code = cut 0 code (trailers code) := by
  have h := cut_locate [] code
  simp only [List.length_nil, List.nil_append] at h
  exact h.symm

theorem map_record_locate (offset : Nat) (ps : List Part) :
    (locate offset ps).map Trailer.record = ps.filterMap Part.removed? := by
  induction ps generalizing offset with
  | nil => rfl
  | cons p ps ih =>
    cases p with
    | main byte =>
      rw [List.filterMap_cons_none rfl]
      exact ih (offset + 1)
    | trailer record content =>
      have hremoved : (Part.trailer record content).removed? = some record := rfl
      rw [List.filterMap_cons_some hremoved]
      exact congrArg (record :: ·) (ih (offset + content.length))

/-- Each trailer of a scan gives one record. -/
theorem removedOnce_eq (code : Bytes) : removedOnce code = (trailers code).map Trailer.record :=
  (map_record_locate 0 (parts code)).symm

theorem trailers_eq_nil_iff (code : Bytes) : trailers code = [] ↔ removedOnce code = [] := by
  rw [removedOnce_eq, List.map_eq_nil_iff]

theorem split_of_no_trailers {code : Bytes} (h : trailers code = []) : split code = (code, []) := by
  have hnone := (trailers_eq_nil_iff code).1 h
  unfold split
  split
  · rfl
  · simp_all

theorem split_of_trailers {code : Bytes} (h : trailers code ≠ []) :
    split code = (strip (stripOnce code), removedOnce code ++ records (stripOnce code)) := by
  rw [Ne, trailers_eq_nil_iff] at h
  rw [split]
  split
  · contradiction
  · rename_i record later heq
    rw [heq]
    rfl

theorem stripOnce_length_lt {code : Bytes} (h : trailers code ≠ []) :
    (stripOnce code).length < code.length := by
  rw [Ne, trailers_eq_nil_iff] at h
  have hlen := stripOnce_length_add code
  have hpos := List.length_pos_iff.2 h
  omega

/-- A pass loses nothing but what the places of its trailers cover. -/
theorem length_eq_stripOnce (code : Bytes) :
    code.length =
      (stripOnce code).length + ((trailers code).map fun t => t.size + suffixSize).sum := by
  have hplaces (offset : Nat) (ps : List Part) : (ps.flatMap Part.bytes).length =
      (ps.flatMap Part.kept).length + ((locate offset ps).map fun t => t.stop - t.start).sum := by
    induction ps generalizing offset with
    | nil => rfl
    | cons p ps ih =>
      cases p with
      | main byte =>
        simp only [List.flatMap_cons, Part.bytes, Part.kept, List.length_append, locate,
          ih (offset + 1)]
        omega
      | trailer record content =>
        simp only [List.flatMap_cons, Part.bytes, Part.kept, List.length_append, locate,
          List.map_cons, List.sum_cons, List.length_nil, ih (offset + content.length)]
        omega
  have hsize : (trailers code).map (fun t => t.stop - t.start) =
      (trailers code).map fun t => t.size + suffixSize := by
    refine List.map_congr_left fun t ht => ?_
    have := (occursIn_of_mem_trailers ht).stop_eq
    omega
  have h := hplaces 0 (parts code)
  rw [flatMap_bytes_parts] at h
  rw [← hsize]
  exact h

theorem stripOnce_sublist (code : Bytes) : (stripOnce code).Sublist code := by
  have h (ps : List Part) : (ps.flatMap Part.kept).Sublist (ps.flatMap Part.bytes) := by
    induction ps with
    | nil => exact List.Sublist.slnil
    | cons p ps ih =>
      simp only [List.flatMap_cons]
      refine List.Sublist.append ?_ ih
      cases p with
      | main byte => exact List.Sublist.refl _
      | trailer record content => exact List.nil_sublist _
  have := h (parts code)
  rwa [flatMap_bytes_parts] at this

/-- The trailers that stripping takes out, in the order of their removal, each
with the code of the pass that finds it. -/
def removals (code : Bytes) : List (Bytes × Trailer) :=
  if trailers code = [] then []
  else (trailers code).map (code, ·) ++ removals (cut 0 code (trailers code))
  termination_by code.length
  decreasing_by
    rw [← stripOnce_eq_cut]
    exact stripOnce_length_lt ‹_›

theorem removals_of_no_trailers {code : Bytes} (h : trailers code = []) : removals code = [] := by
  rw [removals, if_pos h]

theorem removals_of_trailers {code : Bytes} (h : trailers code ≠ []) :
    removals code = (trailers code).map (code, ·) ++ removals (stripOnce code) := by
  rw [removals, if_neg h, ← stripOnce_eq_cut]

/-- Passes are the steps of any induction over stripping. -/
theorem pass_induction {motive : Bytes → Prop}
    (done : ∀ code, trailers code = [] → motive code)
    (pass : ∀ code, trailers code ≠ [] → motive (stripOnce code) → motive code)
    (code : Bytes) : motive code := by
  by_cases h : trailers code = []
  · exact done code h
  · exact pass code h (pass_induction done pass (stripOnce code))
  termination_by code.length
  decreasing_by exact stripOnce_length_lt h

theorem strip_of_trailers {code : Bytes} (h : trailers code ≠ []) :
    strip code = strip (stripOnce code) := by
  rw [strip, split_of_trailers h]

theorem strip_of_no_trailers {code : Bytes} (h : trailers code = []) : strip code = code := by
  rw [strip, split_of_no_trailers h]

theorem trailers_strip (code : Bytes) : trailers (strip code) = [] := by
  induction code using pass_induction with
  | done code h => rwa [strip_of_no_trailers h]
  | pass code h ih => rwa [strip_of_trailers h]

theorem strip_sublist (code : Bytes) : (strip code).Sublist code := by
  induction code using pass_induction with
  | done code h => simp [strip_of_no_trailers h]
  | pass code h ih =>
    rw [strip_of_trailers h]
    exact ih.trans (stripOnce_sublist code)

theorem records_eq (code : Bytes) : records code = (removals code).map fun r => r.2.record := by
  induction code using pass_induction with
  | done code h => rw [records, split_of_no_trailers h, removals_of_no_trailers h, List.map_nil]
  | pass code h ih =>
    rw [records, split_of_trailers h, removals_of_trailers h, List.map_append, ← ih,
      removedOnce_eq, List.map_map]
    rfl

theorem length_eq_strip (code : Bytes) :
    code.length =
      (strip code).length + ((removals code).map fun r => r.2.size + suffixSize).sum := by
  induction code using pass_induction with
  | done code h => simp [strip_of_no_trailers h, removals_of_no_trailers h]
  | pass code h ih =>
    have hpass := length_eq_stripOnce code
    rw [strip_of_trailers h, removals_of_trailers h, List.map_append, List.sum_append,
      List.map_map]
    have hmap : ((fun r : Bytes × Trailer => r.2.size + suffixSize) ∘ fun t => (code, t)) =
        fun t : Trailer => t.size + suffixSize := rfl
    rw [hmap]
    omega

theorem mem_trailers_of_mem_removals {code pass : Bytes} {t : Trailer}
    (h : (pass, t) ∈ removals code) : t ∈ trailers pass := by
  induction code using pass_induction with
  | done code hnone => simp [removals_of_no_trailers hnone] at h
  | pass code hsome ih =>
    rw [removals_of_trailers hsome, List.mem_append, List.mem_map] at h
    rcases h with ⟨t', ht', heq⟩ | h
    · cases heq
      exact ht'
    · exact ih h

/-- Stripping ends in code without trailers and is then idle. It keeps bytes in
their order, and all that is missing are the removed trailers, each a record
with its size behind it and each giving one of the records returned. -/
theorem strip_reaches_normal_form (code : Bytes) :
    trailers (strip code) = [] ∧ split (strip code) = (strip code, []) ∧
      strip (strip code) = strip code ∧ (strip code).Sublist code ∧
      (∀ r ∈ removals code, r.2 ∈ trailers r.1 ∧ r.2.OccursIn r.1) ∧
      records code = (removals code).map (fun r => r.2.record) ∧
      code.length =
        (strip code).length + ((removals code).map fun r => r.2.size + suffixSize).sum ∧
      (trailers code = [] → strip code = code ∧ records code = []) := by
  have hnone := trailers_strip code
  refine ⟨hnone, split_of_no_trailers hnone, strip_of_no_trailers hnone, strip_sublist code,
    ?_, records_eq code, length_eq_strip code, fun h => ⟨strip_of_no_trailers h, ?_⟩⟩
  · rintro ⟨pass, t⟩ hr
    have ht := mem_trailers_of_mem_removals hr
    exact ⟨ht, occursIn_of_mem_trailers ht⟩
  · rw [records, split_of_no_trailers h]

end Provenance.Code
