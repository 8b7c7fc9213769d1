import Provenance.Code.Comparison
import Provenance.Proofs.Code.Stripping

/-!
Code with a trailer behind it. A scan works from the left on bare bytes: a byte
of the main code that looks like the head of a record may begin one that runs
into the trailer. Where no trailer begins inside the main code, the one behind
it is found whole, stripping gives the main code back, and two codes that
differ in nothing else compare as equal.
-/

namespace Provenance.Code

/-- A record with nothing behind it, and then its size in two bytes. -/
def IsTrailer (t : Bytes) : Prop :=
  ∃ (body : Bytes) (record : Metadata) (high low : UInt8), t = body ++ [high, low] ∧
    Metadata.decode body = .ok (record, body.length) ∧
    high.toNat * 256 + low.toNat = body.length

/-- The same as a computation that can be run. -/
theorem IsTrailer.of_toOption {body : Bytes} (record : Metadata) {high low : UInt8}
    (hbody : (Metadata.decode body).toOption = some (record, body.length))
    (hsize : high.toNat * 256 + low.toNat = body.length) : IsTrailer (body ++ [high, low]) := by
  cases hd : Metadata.decode body with
  | error e => simp [hd, Except.toOption] at hbody
  | ok found =>
    obtain rfl : found = (record, body.length) := by simpa [hd, Except.toOption] using hbody
    exact ⟨body, record, high, low, rfl, hd, hsize⟩

/-- No trailer of the code begins in front of the given place. -/
def ClearBefore (n : Nat) (code : Bytes) : Prop := ∀ t ∈ trailers code, n ≤ t.start

/-- A trailer is found at the front of whatever it stands in. -/
theorem IsTrailer.trailer?_append {t : Bytes} (ht : IsTrailer t) (more : Bytes) :
    ∃ record, trailer? (t ++ more) = some (record, t.length) := by
  obtain ⟨body, record, high, low, rfl, hbody, hsize⟩ := ht
  have hread : Metadata.read body = .ok (record, []) := by
    simpa using (Metadata.decode_eq_ok_iff.1 hbody).1
  have hall : Metadata.read (body ++ ([high, low] ++ more)) = .ok (record, [high, low] ++ more) :=
    Metadata.local_read.append hread _
  refine ⟨record, trailer?_eq_some_iff.2 ⟨body.length, ?_, ?_, ?_, ?_⟩⟩
  · rw [List.append_assoc]
    exact Metadata.decode_eq_ok_iff.2 ⟨by simpa using hall, by simp⟩
  · simp [suffixSize]
  · simp
  · rw [List.append_assoc, List.drop_left]
    simpa [suffixSize, bigEndian_pair] using hsize

/-- A trailer whose head the scan looks for is a single part. -/
theorem IsTrailer.parts_eq {head : UInt8} {tail : Bytes} (ht : IsTrailer (head :: tail))
    (hhead : isRecordHead head = true) : ∃ record, parts (head :: tail) =
      [.trailer record (head :: tail)] := by
  obtain ⟨record, htrailer⟩ := ht.trailer?_append []
  rw [List.append_nil] at htrailer
  have hfound : headedTrailer? (head :: tail) = some (record, tail.length + 1) :=
    headedTrailer?_eq_some_iff.2 ⟨⟨head, rfl, hhead⟩, htrailer⟩
  refine ⟨record, ?_⟩
  unfold parts
  split
  · rename_i found size heq
    rw [hfound] at heq
    obtain ⟨rfl, hsize⟩ := Prod.mk.inj (Option.some.inj heq)
    obtain rfl : tail.length = size := by omega
    simp [parts]
  · rename_i hnone
    exact absurd hfound (hnone record tail.length)

/-- By induction on the main code: where no trailer begins, a byte is passed. -/
theorem parts_append_trailer {main t : Bytes} (offset : Nat) {record : Metadata}
    (ht : parts t = [.trailer record t])
    (hclear : ∀ u ∈ locate offset (parts (main ++ t)), offset + main.length ≤ u.start) :
    parts (main ++ t) = main.map Part.main ++ [.trailer record t] := by
  induction main generalizing offset with
  | nil => exact ht
  | cons byte main ih =>
    rw [List.cons_append] at hclear ⊢
    unfold parts at hclear ⊢
    split at hclear
    · have := hclear _ List.mem_cons_self
      simp only [List.length_cons] at this
      omega
    · refine congrArg (Part.main byte :: ·) (ih (offset + 1) fun u hu => ?_)
      have := hclear u hu
      simp only [List.length_cons] at this
      omega

theorem flatMap_kept_main (main : Bytes) : (main.map Part.main).flatMap Part.kept = main := by
  induction main with
  | nil => rfl
  | cons byte main ih => simpa [Part.kept] using ih

/-- Stripping takes the trailer behind the main code and nothing else. -/
theorem strip_append_trailer {main t : Bytes} (hmain : trailers main = []) (ht : IsTrailer t)
    (hhead : ∃ head ∈ t.head?, isRecordHead head = true)
    (hclear : ClearBefore main.length (main ++ t)) : strip (main ++ t) = main := by
  obtain ⟨record, hparts⟩ : ∃ record, parts t = [.trailer record t] := by
    obtain ⟨head, hmem, hhead⟩ := hhead
    cases t with
    | nil => cases hmem
    | cons first tail =>
      obtain rfl : first = head := by simpa using hmem
      exact ht.parts_eq hhead
  have hall : parts (main ++ t) = main.map Part.main ++ [.trailer record t] :=
    parts_append_trailer 0 hparts (by simpa [ClearBefore, trailers] using hclear)
  have honce : stripOnce (main ++ t) = main := by
    rw [stripOnce, hall, List.flatMap_append, flatMap_kept_main]
    simp [Part.kept]
  have hremoved : trailers (main ++ t) ≠ [] := by
    rw [Ne, trailers_eq_nil_iff, removedOnce, hall, List.filterMap_append]
    simp [Part.removed?]
  rw [strip_of_trailers hremoved, honce, strip_of_no_trailers hmain]

/-- Two trailers behind the same main code make no difference: stripping gives
the main code for both, so they agree on the runtime level and in the
fingerprints that leave metadata out. -/
theorem runtime_ignores_trailer {main t₁ t₂ : Bytes} (hmain : trailers main = [])
    (h₁ : IsTrailer t₁) (h₂ : IsTrailer t₂)
    (hhead₁ : ∃ head ∈ t₁.head?, isRecordHead head = true)
    (hhead₂ : ∃ head ∈ t₂.head?, isRecordHead head = true)
    (hclear₁ : ClearBefore main.length (main ++ t₁))
    (hclear₂ : ClearBefore main.length (main ++ t₂)) :
    strip (main ++ t₁) = main ∧ strip (main ++ t₂) = main ∧
      (compare (main ++ t₁) (main ++ t₂)).runtime = true ∧
      (fingerprints (main ++ t₁)).metaless = (fingerprints (main ++ t₂)).metaless ∧
      (fingerprints (main ++ t₁)).opcode = (fingerprints (main ++ t₂)).opcode := by
  have hs₁ := strip_append_trailer hmain h₁ hhead₁ hclear₁
  have hs₂ := strip_append_trailer hmain h₂ hhead₂ hclear₂
  refine ⟨hs₁, hs₂, ?_, ?_, ?_⟩
  · simp only [compare, hs₁, hs₂, decide_true]
  · simp only [fingerprints, hs₁, hs₂]
  · simp only [fingerprints, hs₁, hs₂]

def releaseTrailer (minor patch : UInt8) : Bytes :=
  [0xA1, 0x64, 0x73, 0x6F, 0x6C, 0x63, 0x43, 0x00, minor, patch] ++ [0x00, 0x0A]

theorem isTrailer_release_18_5 : IsTrailer (releaseTrailer 18 5) := by
  refine IsTrailer.of_toOption { solc := some (.release 0 18 5) } ?_ rfl
  decide +kernel

theorem isTrailer_release_8_9 : IsTrailer (releaseTrailer 8 9) := by
  refine IsTrailer.of_toOption { solc := some (.release 0 8 9) } ?_ rfl
  decide +kernel

/-- Main code with a map head that begins nothing, and two releases behind it. -/
theorem runtime_ignores_release :
    let main : Bytes := [0x60, 0x80, 0xA1, 0x64, 0x73, 0x6F, 0x6C, 0x63, 0xFE]
    trailers main = [] ∧ ClearBefore main.length (main ++ releaseTrailer 18 5) ∧
      ClearBefore main.length (main ++ releaseTrailer 8 9) ∧
      strip (main ++ releaseTrailer 18 5) = main ∧
      (compare (main ++ releaseTrailer 18 5) (main ++ releaseTrailer 8 9)).runtime = true := by
  intro main
  have hmain : trailers main = [] := by decide +kernel
  have hclear₁ : ClearBefore main.length (main ++ releaseTrailer 18 5) := by
    unfold ClearBefore
    decide +kernel
  have hclear₂ : ClearBefore main.length (main ++ releaseTrailer 8 9) := by
    unfold ClearBefore
    decide +kernel
  have h := runtime_ignores_trailer hmain isTrailer_release_18_5 isTrailer_release_8_9
    ⟨0xA1, rfl, rfl⟩ ⟨0xA1, rfl, rfl⟩ hclear₁ hclear₂
  exact ⟨hmain, hclear₁, hclear₂, h.1, h.2.2.1⟩

/-- A version text that the main code leaves unfinished takes the start of the
trailer behind it, and the version in that trailer then reads as a size. A head
in two bytes is another way to lose a trailer, as no scan looks for it. -/
theorem trailer_changes_runtime :
    let main : Bytes := [0xA1, 0x64, 0x73, 0x6F, 0x6C, 0x63, 0x6B, 0x61, 0x61, 0x61, 0xC3]
    let wide : Bytes :=
      [0xB8, 0x01, 0x64, 0x73, 0x6F, 0x6C, 0x63, 0x43, 0x00, 0x08, 0x09] ++ [0x00, 0x0B]
    (trailers main = [] ∧ IsTrailer (releaseTrailer 18 5) ∧ IsTrailer (releaseTrailer 8 9) ∧
      (compare (main ++ releaseTrailer 18 5) (main ++ releaseTrailer 8 9)).runtime = false) ∧
    IsTrailer wide ∧ (compare wide (releaseTrailer 8 9)).runtime = false := by
  intro main wide
  refine ⟨⟨by decide +kernel, isTrailer_release_18_5, isTrailer_release_8_9, by decide +kernel⟩,
    ?_, by decide +kernel⟩
  refine IsTrailer.of_toOption { solc := some (.release 0 8 9) } ?_ rfl
  decide +kernel

end Provenance.Code
