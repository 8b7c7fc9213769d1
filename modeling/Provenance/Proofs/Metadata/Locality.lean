import Provenance.Metadata
import Provenance.Proofs.Cbor.Locality

/-!
The record reader is local: a record is read from the bytes it occupies, in
front of whatever follows. Every look at the kind of the next item is followed
by taking that item, and none of the kinds looked for depends on a second byte.
-/

namespace Provenance.Metadata

open Cbor

/-- For these kinds the first byte alone decides. -/
theorem kindOf_eq_of_plain {kind : Kind} (hkind : kind ∈ [Kind.bytes, .text, .map, .bool])
    {head : UInt8} {following : Bytes} (h : kindOf head following = .ok kind) (other : Bytes) :
    kindOf head other = .ok kind := by
  have hneg (fits wider : Kind) (hf : fits ∉ [Kind.bytes, .text, .map, .bool])
      (hw : wider ∉ [Kind.bytes, .text, .map, .bool]) :
      negativeKind following fits wider ≠ .ok kind := by
    intro hn
    cases following with
    | nil => cases hn
    | cons byte rest =>
      simp only [negativeKind, Except.ok.injEq] at hn
      split at hn
      · exact hf (hn ▸ hkind)
      · exact hw (hn ▸ hkind)
  unfold kindOf at h ⊢
  grind

theorem item_nextKind_cons {kind : Kind} (hkind : kind ∈ [Kind.bytes, .text, .map, .bool])
    {head : UInt8} {tail : Bytes} (h : item nextKind (head :: tail) = .ok kind) (other : Bytes) :
    item nextKind (head :: other) = .ok kind := by
  cases hk : kindOf head tail with
  | error e => simp [item, nextKind, hk, Except.mapError] at h
  | ok found =>
    simp only [item, nextKind, hk, Except.mapError, Except.ok.injEq] at h
    subst h
    simp only [item, nextKind, kindOf_eq_of_plain hkind hk other, Except.mapError]

theorem local_item {α : Type} {read : Bytes → Except Cbor.Fault (α × Bytes)} (h : Local read) :
    Local (item read) :=
  h.mapError Fault.cbor

theorem takes_item {α : Type} {read : Bytes → Except Cbor.Fault (α × Bytes)} (h : Takes read) :
    Takes (item read) :=
  h.mapError Fault.cbor

/-- Wanting a kind of item and then reading such an item. -/
theorem local_expectKind {α : Type} (key : String) {kind : Kind}
    (hkind : kind ∈ [Kind.bytes, .text, .map, .bool]) {read : Reader α} (hread : Local read)
    (htakes : Takes read) :
    Local fun bytes => expectKind key kind bytes >>= fun _ => read bytes := by
  refine Local.peek (fun _ => hread) (fun _ => htakes) ?_
  intro _ head tail tail' bytes a hlook _
  cases hn : item nextKind (head :: tail) with
  | error e => simp [expectKind, hn, bind, Except.bind] at hlook
  | ok found =>
    simp only [expectKind, hn, bind, Except.bind] at hlook ⊢
    split at hlook
    · rename_i heq
      subst heq
      simp only [item_nextKind_cons hkind hn tail', if_pos]
    · cases hlook

theorem local_hash (key : String) (size : Nat) : Local (hash key size) := by
  have hsized (content : Bytes) : Local fun rest =>
      if content.length = size then Except.ok (content, rest)
      else .error (Fault.wrongHashSize key size content.length) :=
    Local.ite (fun _ => Local.pure content) fun _ => Local.of_ne_ok (by simp)
  refine local_expectKind key (by simp) ?_ ?_
  · exact (local_item (local_definite 2)).bind hsized
  · exact (takes_item fun _ _ _ => definite_length).bind hsized

theorem takes_byteString : Takes byteString := fun _ _ _ => definite_length

theorem takes_textString : Takes textString := fun _ _ _ => textString_length

/-- A release is three bytes. -/
theorem local_release (content : Bytes) : Local fun rest => match content with
    | [major, minor, patch] => Except.ok (SolcVersion.release major minor patch, rest)
    | other => .error (Fault.badVersion other) := by
  rcases content with _ | ⟨major, _ | ⟨minor, _ | ⟨patch, _ | ⟨extra, others⟩⟩⟩⟩
  case cons.cons.cons.nil => exact Local.pure _
  all_goals exact Local.of_ne_ok (by simp)

theorem local_version : Local version := by
  have hprerelease (text : String) :
      Local fun rest => (Except.ok (.prerelease text, rest) : Except Fault (SolcVersion × Bytes)) :=
    Local.pure _
  refine Local.peek (fun found => ?_) (fun found => ?_) ?_
  · split
    · exact (local_item (local_definite 2)).bind local_release
    · exact (local_item local_textString).bind hprerelease
    · exact Local.of_ne_ok (by simp)
  · split
    · exact (takes_item takes_byteString).bind local_release
    · exact (takes_item takes_textString).bind hprerelease
    · exact Takes.of_ne_ok (by simp)
  · intro found head tail tail' bytes a hlook hnext
    refine item_nextKind_cons ?_ hlook tail'
    split at hnext <;> simp_all

theorem takes_bool : Takes Cbor.bool := by
  intro bytes flag rest h
  cases bytes with
  | nil => cases h
  | cons head tail =>
    simp only [Cbor.bool] at h
    split at h
    · cases h
      simp
    · split at h
      · cases h
        simp
      · exact absurd h mismatch_ne_ok

/-- Filling a slot with what was read reads nothing more. -/
theorem local_slot {α β : Type} {read : Reader α} (hread : Local read) (key : String)
    (slot : Option β) (content : α → β) (f : Option β → Metadata) :
    Local fun bytes => read bytes >>= fun result =>
      setOnce key slot (content result.1) >>= fun slot => Except.ok (f slot, result.2) := by
  refine hread.bind (f := fun a rest =>
    setOnce key slot (content a) >>= fun slot => Except.ok (f slot, rest)) fun a => ?_
  cases slot with
  | none => exact Local.pure (f (some (content a)))
  | some _ => exact Local.of_ne_ok (by simp [setOnce, bind, Except.bind])

/-- An entry that is passed over leaves the record as it is. -/
theorem local_passed (record : Metadata) :
    Local fun bytes => item skip bytes >>= fun rest => Except.ok (record, rest) := by
  intro bytes a rest h
  cases hs : skip bytes with
  | error e => simp [item, hs, Except.mapError, bind, Except.bind] at h
  | ok mid =>
    obtain ⟨taken, rfl, htaken⟩ := localPass_skip _ _ hs
    simp only [item, hs, Except.mapError, bind, Except.bind, Except.ok.injEq, Prod.mk.injEq] at h
    obtain ⟨rfl, rfl⟩ := h
    refine ⟨taken, rfl, fun rest' => ?_⟩
    simp only [item, htaken, Except.mapError, bind, Except.bind]

theorem local_value (record : Metadata) (key : String) : Local (value record key) := by
  unfold value
  split
  · exact local_slot (local_hash _ _) _ _ ipfsPath fun slot => { record with ipfs := slot }
  · exact local_slot (local_hash _ _) _ _ (swarmPath "bzzr0") fun slot =>
      { record with bzzr0 := slot }
  · exact local_slot (local_hash _ _) _ _ (swarmPath "bzzr1") fun slot =>
      { record with bzzr1 := slot }
  · exact local_slot local_version _ _ id fun slot => { record with solc := slot }
  · have hset (flag : Bool) : Local fun rest =>
        (Except.ok ({ record with experimental := flag }, rest) :
          Except Fault (Metadata × Bytes)) :=
      Local.pure _
    refine local_expectKind _ (by simp) ?_ ?_
    · exact (local_item local_bool).bind hset
    · exact (takes_item takes_bool).bind hset
  · exact local_passed record

theorem local_entry (record : Metadata) : Local (entry record) := by
  refine local_expectKind _ (by simp) ?_ ?_
  · exact (local_item local_textString).bind fun key => local_value record key
  · exact (takes_item takes_textString).bind fun key => local_value record key

theorem local_entries (record : Metadata) (count : Nat) : Local fun bytes =>
    entries record count bytes := by
  induction count generalizing record with
  | zero => exact Local.pure record
  | succ count ih => exact (local_entry record).bind fun record => ih record

theorem takes_mapHead : Takes mapHead := fun _ _ _ => container_length

theorem local_counted (entries : Option Nat) : Local fun rest => match (entries, rest) with
    | (some n, rest) =>
      if 0 < n ∧ n ≤ maxEntries then Except.ok (n, rest) else .error (Fault.badCount n)
    | (none, _) => .error (Fault.badCount (2 ^ 64 - 1)) := by
  cases entries with
  | none => exact Local.of_ne_ok (by simp)
  | some n => exact Local.ite (fun _ => Local.pure n) fun _ => Local.of_ne_ok (by simp)

theorem local_count : Local count := by
  refine Local.peek (fun found => ?_) (fun found => ?_) ?_
  · split
    · exact (local_item (local_container 5)).bind local_counted
    · exact Local.of_ne_ok (by simp)
  · split
    · exact (takes_item takes_mapHead).bind local_counted
    · exact Takes.of_ne_ok (by simp)
  · intro found head tail tail' bytes a hlook hnext
    refine item_nextKind_cons ?_ hlook tail'
    split at hnext <;> simp_all

/-- A record depends on the bytes that it occupies and on no others. -/
theorem local_read : Local read := by
  have hknown (record : Metadata) : Local fun rest =>
      if record.isKnown then Except.ok (record, rest) else .error Fault.noKnownKeys :=
    Local.ite (fun _ => Local.pure record) fun _ => Local.of_ne_ok (by simp)
  exact local_count.bind fun n => (local_entries {} n).bind hknown

/-!
How far a record reaches. Reading reports a size, and the bytes of that size at
the front are the record: with anything else behind them they read the same,
and with fewer of them nothing is read.
-/

theorem decode_eq_ok_iff {bytes : Bytes} {record : Metadata} {size : Nat} :
    decode bytes = .ok (record, size) ↔
      read bytes = .ok (record, bytes.drop size) ∧ size ≤ bytes.length := by
  constructor
  · intro h
    cases hr : read bytes with
    | error e => simp [decode, hr, Except.map] at h
    | ok result =>
      obtain ⟨found, rest⟩ := result
      simp only [decode, hr, Except.map, Except.ok.injEq, Prod.mk.injEq] at h
      obtain ⟨rfl, rfl⟩ := h
      obtain ⟨taken, rfl, -⟩ := local_read _ _ _ hr
      have hn : (taken ++ rest).length - rest.length = taken.length := by simp
      rw [hn]
      simp
  · rintro ⟨hr, hn⟩
    simp only [decode, hr, Except.map, List.length_drop]
    rw [Nat.sub_sub_self hn]

/-- A record is found in front of whatever stands behind it. -/
theorem decode_append {bytes : Bytes} {record : Metadata} {size : Nat}
    (h : decode bytes = .ok (record, size)) (more : Bytes) :
    decode (bytes ++ more) = .ok (record, size) := by
  obtain ⟨hr, hn⟩ := decode_eq_ok_iff.1 h
  refine decode_eq_ok_iff.2 ⟨?_, ?_⟩
  · rw [List.drop_append_of_le_length hn]
    exact local_read.append hr more
  · rw [List.length_append]
    omega

/-- The bytes that a record takes are the record. -/
theorem decode_take {bytes : Bytes} {record : Metadata} {size : Nat}
    (h : decode bytes = .ok (record, size)) : decode (bytes.take size) = .ok (record, size) := by
  obtain ⟨hr, hn⟩ := decode_eq_ok_iff.1 h
  obtain ⟨taken, hbytes, htaken⟩ := local_read _ _ _ hr
  have hlen : taken.length = size := by
    have := congrArg List.length hbytes
    simp only [List.length_append, List.length_drop] at this
    omega
  have htake : bytes.take size = taken := by
    rw [hbytes]
    exact List.take_left' hlen
  refine decode_eq_ok_iff.2 ⟨?_, ?_⟩
  · have halone := htaken []
    rw [List.append_nil] at halone
    rw [htake, halone, List.drop_eq_nil_of_le (Nat.le_of_eq hlen)]
  · rw [htake, hlen]

/-- A record depends on the bytes of its size and on all of them: they are
there, they read the same in front of anything, and no shorter front reads as
a record. -/
theorem decode_needs_exactly {bytes : Bytes} {record : Metadata} {size : Nat}
    (h : decode bytes = .ok (record, size)) :
    size ≤ bytes.length ∧ (∀ rest, decode (bytes.take size ++ rest) = .ok (record, size)) ∧
      ∀ k < size, ∃ fault, decode (bytes.take k) = .error fault := by
  refine ⟨(decode_eq_ok_iff.1 h).2, fun rest => decode_append (decode_take h) rest, ?_⟩
  intro k hk
  cases hfront : decode (bytes.take k) with
  | error fault => exact ⟨fault, rfl⟩
  | ok found =>
    -- A shorter record would be found in front of the remaining bytes as well.
    obtain ⟨record', size'⟩ := found
    have hle := (decode_eq_ok_iff.1 hfront).2
    have hall := decode_append hfront (bytes.drop k)
    rw [List.take_append_drop, h] at hall
    have hsize := (Prod.mk.inj (Except.ok.inj hall)).2
    rw [List.length_take] at hle
    omega

/-- A record with an unknown entry, in front of its size and of other code. -/
theorem decode_needs_exactly_fifteen :
    let bytes : Bytes := [0xA2, 0x61, 0x61, 0x9F, 0x01, 0xFF, 0x64, 0x73, 0x6F, 0x6C, 0x63, 0x43,
      0x00, 0x08, 0x09] ++ [0x00, 0x0F, 0xFE]
    decode bytes = .ok ({ solc := some (.release 0 8 9) }, 15) ∧
      ∃ fault, decode (bytes.take 14) = .error fault := by
  intro bytes
  have h : decode bytes = .ok ({ solc := some (.release 0 8 9) }, 15) := by decide +kernel
  exact ⟨h, (decode_needs_exactly h).2.2 14 (by decide)⟩

end Provenance.Metadata
