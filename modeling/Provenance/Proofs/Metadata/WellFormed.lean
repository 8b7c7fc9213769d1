import Provenance.Proofs.Cbor.Walk
import Provenance.Proofs.Metadata.Locality

/-!
A record against the grammar of data items. Its head, its keys and the values
of the known keys are items of the grammar; the value of an unknown key is what
the walk over an item makes of it. So a record is a well-formed map, or it
leaves the grammar with a byte that the walk does not notice: a stray break, or
the second byte of a simple value that belongs in one.
-/

namespace Provenance.Metadata

open Cbor

theorem item_eq_ok {α : Type} {read : Bytes → Except Cbor.Fault α} {bytes : Bytes} {a : α}
    (h : item read bytes = .ok a) : read bytes = .ok a := by
  cases hread : read bytes with
  | error e => simp [item, hread, Except.mapError] at h
  | ok found => simpa [item, hread, Except.mapError] using h

/-- A reader that leads from one state of nesting to another, or strays. The
bound leaves no room for counts to saturate. -/
def Leads {α : Type} (p q : Nesting) (read : Reader α) : Prop :=
  ∀ bytes a rest, bytes.length < 2 ^ 64 - 1 → read bytes = .ok (a, rest) →
    ∃ taken, bytes = taken ++ rest ∧ Passes p taken q

namespace Leads

variable {α β γ : Type} {p q r : Nesting}

theorem of_ne_ok {read : Reader α} (h : ∀ bytes a, read bytes ≠ .ok a) : Leads p q read := by
  intro bytes a rest _ hread
  exact absurd hread (h bytes (a, rest))

theorem pure (a : α) :
    Leads p p fun bytes => (Except.ok (a, bytes) : Except Fault (α × Bytes)) := by
  intro bytes b rest _ h
  cases h
  exact ⟨[], rfl, .inl (.refl p)⟩

/-- A reader of one item that holds no other. -/
theorem of_leaf {read : Reader α} (base : Nat)
    (h : ∀ bytes a rest, read bytes = .ok (a, rest) →
      ∃ piece, bytes = piece ++ rest ∧ Leaf ValidText piece) :
    Leads ⟨base + 1, []⟩ ⟨base, []⟩ read := by
  intro bytes a rest _ hread
  obtain ⟨piece, rfl, hpiece⟩ := h bytes a rest hread
  exact ⟨piece, rfl, .inl (.one (.leaf hpiece) rfl)⟩

theorem bind {read : Reader α} {f : α → Reader β} (hread : Leads p q read)
    (hf : ∀ a, Leads q r (f a)) :
    Leads p r fun bytes => read bytes >>= fun result => f result.1 result.2 := by
  intro bytes b rest hlen h
  obtain ⟨⟨a, mid⟩, hfirst, hsecond⟩ := exists_of_bind_eq_ok h
  obtain ⟨front, rfl, hfront⟩ := hread _ _ _ hlen hfirst
  have hmid : mid.length < 2 ^ 64 - 1 := by
    rw [List.length_append] at hlen
    omega
  obtain ⟨back, rfl, hback⟩ := hf a _ _ _ hmid hsecond
  exact ⟨front ++ back, (List.append_assoc ..).symm, hfront.append hback⟩

/-- Looking ahead takes nothing. -/
theorem peek {look : Bytes → Except Fault γ} {next : γ → Reader α}
    (hnext : ∀ c, Leads p q (next c)) :
    Leads p q fun bytes => look bytes >>= fun c => next c bytes := by
  intro bytes a rest hlen h
  obtain ⟨c, -, hread⟩ := exists_of_bind_eq_ok h
  exact hnext c bytes a rest hlen hread

theorem ite {P : Prop} [Decidable P] {yes no : Reader α} (hyes : Leads p q yes)
    (hno : Leads p q no) : Leads p q fun bytes => if P then yes bytes else no bytes := by
  by_cases h : P
  · simpa only [if_pos h] using hyes
  · simpa only [if_neg h] using hno

end Leads

theorem leads_byteString (base : Nat) :
    Leads ⟨base + 1, []⟩ ⟨base, []⟩ (item byteString) := by
  refine Leads.of_leaf base fun bytes content rest h => ?_
  obtain ⟨head, rfl, hhead⟩ := definite_eq_ok (item_eq_ok h)
  have hchunk : Chunk ValidText 2 (head ++ content) :=
    .mk hhead fun hkind => absurd hkind (by decide)
  exact ⟨head ++ content, (List.append_assoc ..).symm, .string (.inl rfl) hchunk⟩

theorem leads_textString (base : Nat) :
    Leads ⟨base + 1, []⟩ ⟨base, []⟩ (item textString) := by
  refine Leads.of_leaf base fun bytes text rest h => ?_
  obtain ⟨chunk, rfl, hchunk⟩ := chunk_of_textString (item_eq_ok h)
  exact ⟨chunk, rfl, .string (.inr rfl) hchunk⟩

/-- A small simple value is an item in one byte. -/
theorem leaf_short {n : Nat} (hn : n < 24) : Leaf ValidText [UInt8.ofNat (32 * 7 + n)] :=
  .simple (.short hn) fun hlen => by simp at hlen

theorem leads_bool (base : Nat) : Leads ⟨base + 1, []⟩ ⟨base, []⟩ (item Cbor.bool) := by
  refine Leads.of_leaf base fun bytes flag rest h => ?_
  obtain rfl := bool_eq_ok (item_eq_ok h)
  cases flag with
  | false => exact ⟨[0xF4], rfl, leaf_short (show 20 < 24 by decide)⟩
  | true => exact ⟨[0xF5], rfl, leaf_short (show 21 < 24 by decide)⟩

theorem leads_hash (key : String) (size base : Nat) :
    Leads ⟨base + 1, []⟩ ⟨base, []⟩ (hash key size) := by
  have hsized (content : Bytes) : Leads ⟨base, []⟩ ⟨base, []⟩ fun rest =>
      if content.length = size then Except.ok (content, rest)
      else .error (Fault.wrongHashSize key size content.length) :=
    Leads.ite (Leads.pure content) (Leads.of_ne_ok (by simp))
  exact Leads.peek fun _ => (leads_byteString base).bind hsized

theorem leads_release (p : Nesting) (content : Bytes) : Leads p p fun rest => match content with
    | [major, minor, patch] => Except.ok (SolcVersion.release major minor patch, rest)
    | other => .error (Fault.badVersion other) := by
  rcases content with _ | ⟨major, _ | ⟨minor, _ | ⟨patch, _ | ⟨extra, others⟩⟩⟩⟩
  case cons.cons.cons.nil => exact Leads.pure _
  all_goals exact Leads.of_ne_ok (by simp)

theorem leads_version (base : Nat) : Leads ⟨base + 1, []⟩ ⟨base, []⟩ version := by
  have hprerelease (text : String) : Leads ⟨base, []⟩ ⟨base, []⟩ fun rest =>
      (Except.ok (.prerelease text, rest) : Except Fault (SolcVersion × Bytes)) :=
    Leads.pure _
  refine Leads.peek fun found => ?_
  split
  · exact (leads_byteString base).bind (leads_release ⟨base, []⟩)
  · exact (leads_textString base).bind hprerelease
  · exact Leads.of_ne_ok (by simp)

/-- Filling a slot with what was read reads nothing more. -/
theorem Leads.slot {α β : Type} {p q : Nesting} {read : Reader α} (hread : Leads p q read)
    (key : String) (slot : Option β) (content : α → β) (f : Option β → Metadata) :
    Leads p q fun bytes => read bytes >>= fun result =>
      setOnce key slot (content result.1) >>= fun slot => Except.ok (f slot, result.2) := by
  refine hread.bind (f := fun a rest =>
    setOnce key slot (content a) >>= fun slot => Except.ok (f slot, rest)) fun a => ?_
  cases slot with
  | none => exact Leads.pure (f (some (content a)))
  | some _ => exact Leads.of_ne_ok (by simp [setOnce, Bind.bind, Except.bind])

/-- The value of an unknown key is passed over. -/
theorem leads_passed (record : Metadata) (base : Nat) : Leads ⟨base + 1, []⟩ ⟨base, []⟩
    fun bytes => item skip bytes >>= fun rest => Except.ok (record, rest) := by
  intro bytes a rest hlen h
  obtain ⟨mid, hskip, heq⟩ := exists_of_bind_eq_ok h
  cases heq
  exact skip_eq_ok hlen (item_eq_ok hskip) base

theorem leads_value (record : Metadata) (key : String) (base : Nat) :
    Leads ⟨base + 1, []⟩ ⟨base, []⟩ (value record key) := by
  unfold value
  split
  · exact (leads_hash _ _ base).slot _ _ ipfsPath fun slot => { record with ipfs := slot }
  · exact (leads_hash _ _ base).slot _ _ (swarmPath "bzzr0") fun slot =>
      { record with bzzr0 := slot }
  · exact (leads_hash _ _ base).slot _ _ (swarmPath "bzzr1") fun slot =>
      { record with bzzr1 := slot }
  · exact (leads_version base).slot _ _ id fun slot => { record with solc := slot }
  · have hset (flag : Bool) : Leads ⟨base, []⟩ ⟨base, []⟩ fun rest =>
        (Except.ok ({ record with experimental := flag }, rest) :
          Except Fault (Metadata × Bytes)) :=
      Leads.pure _
    exact Leads.peek fun _ => (leads_bool base).bind hset
  · exact leads_passed record base

theorem leads_entry (record : Metadata) (base : Nat) :
    Leads ⟨base + 2, []⟩ ⟨base, []⟩ (entry record) :=
  Leads.peek fun _ => (leads_textString (base + 1)).bind fun key => leads_value record key base

theorem leads_entries (record : Metadata) (count : Nat) :
    Leads ⟨2 * count, []⟩ .finished fun bytes => entries record count bytes := by
  induction count generalizing record with
  | zero => exact Leads.pure record
  | succ count ih => exact (leads_entry record (2 * count)).bind fun record => ih record

theorem count_eq_ok {bytes rest : Bytes} {n : Nat} (h : count bytes = .ok (n, rest)) :
    ∃ head, bytes = head ++ rest ∧ Head 5 n head := by
  obtain ⟨kind, -, hnext⟩ := exists_of_bind_eq_ok h
  split at hnext
  · obtain ⟨⟨found, mid⟩, hmap, hchecked⟩ := exists_of_bind_eq_ok hnext
    rcases container_eq_ok (item_eq_ok hmap) with ⟨rfl, -⟩ | ⟨m, head, rfl, rfl, hhead⟩
    · cases hchecked
    · simp only [ite_eq_iff, Except.ok.injEq, Prod.mk.injEq] at hchecked
      rcases hchecked with ⟨-, rfl, rfl⟩ | ⟨-, hbad⟩
      · exact ⟨head, rfl, hhead⟩
      · cases hbad
  · cases hnext

theorem count_bounds {bytes rest : Bytes} {n : Nat} (h : count bytes = .ok (n, rest)) :
    0 < n ∧ n ≤ maxEntries := by
  obtain ⟨kind, -, hnext⟩ := exists_of_bind_eq_ok h
  split at hnext
  · obtain ⟨⟨found, mid⟩, -, hchecked⟩ := exists_of_bind_eq_ok hnext
    cases found with
    | none => cases hchecked
    | some m =>
      dsimp only at hchecked
      split at hchecked
      · rename_i hbounds
        cases hchecked
        exact hbounds
      · cases hchecked
  · cases hnext

/-- What a record takes is a well-formed map, or it leaves the grammar. -/
theorem read_wellFormedMap_or_departs {bytes rest : Bytes} {record : Metadata}
    (hlen : bytes.length < 2 ^ 64) (h : read bytes = .ok (record, rest)) :
    ∃ taken, bytes = taken ++ rest ∧ (WellFormedMap taken ∨
      ∃ front byte, Departs taken front byte ∧
        (byte = stopByte ∨ AwaitsSimple front ∧ byte.toNat < 0x20)) := by
  obtain ⟨⟨n, mid⟩, hcount, hnext⟩ := exists_of_bind_eq_ok h
  obtain ⟨⟨found, later⟩, hentries, hknown⟩ := exists_of_bind_eq_ok hnext
  obtain ⟨head, rfl, hhead⟩ := count_eq_ok hcount
  have hmid : mid.length < 2 ^ 64 - 1 := by
    have hpos := List.length_pos_iff.2 hhead.ne_nil
    rw [List.length_append] at hlen
    omega
  obtain ⟨inner, rfl, hinner⟩ := leads_entries {} n mid found later hmid hentries
  have hlater : later = rest := by
    simp only at hknown
    split at hknown
    · cases hknown
      rfl
    · cases hknown
  subst hlater
  refine ⟨head ++ inner, (List.append_assoc ..).symm, ?_⟩
  rcases hinner with hrun | hstrays
  · have hitems : Items (fun _ => True) (2 * n) inner :=
      items_iff_run.2 (hrun.mono fun _ _ => trivial)
    exact .inl ⟨n, head, inner, hhead, hitems, rfl⟩
  · have hbegin : Nesting.advance ⟨1, []⟩ (.holder (2 * n)) = some ⟨2 * n, []⟩ := by
      rw [Nesting.advance, Nesting.begin, Nat.zero_add]
    exact .inr (hstrays.behind (.one (.holder (.map hhead)) hbegin)).departs

/-- A record is a well-formed map unless it leaves the grammar with a byte that
the walk over the value of an unknown key does not notice: a stray break, or
the second byte of a simple value that belongs in one. The length of the bytes
fits in a word, as the counts of the walk do. -/
theorem decode_wellFormedMap_iff {bytes : Bytes} {record : Metadata} {size : Nat}
    (hlen : bytes.length < 2 ^ 64) (h : decode bytes = .ok (record, size)) :
    WellFormedMap (bytes.take size) ↔
      ¬ ∃ front byte, Departs (bytes.take size) front byte ∧
        (byte = stopByte ∨ AwaitsSimple front ∧ byte.toNat < 0x20) := by
  obtain ⟨hread, hsize⟩ := decode_eq_ok_iff.1 h
  obtain ⟨taken, hbytes, hcases⟩ := read_wellFormedMap_or_departs hlen hread
  have htaken : bytes.take size = taken := by
    have hwhole := (List.take_append_drop size bytes).trans hbytes
    exact List.append_cancel_right hwhole
  rw [htaken]
  constructor
  · rintro hmap ⟨front, byte, hdeparts, -⟩
    exact (WellFormedMap.wellFormed hmap).not_departs hdeparts
  · intro hnone
    exact hcases.resolve_right hnone

/-- A record in which the value of the unknown key is a break. -/
theorem stray_break_accepted :
    let bytes : Bytes :=
      [0xA2, 0x64, 0x73, 0x6F, 0x6C, 0x63, 0x43, 0x00, 0x08, 0x09, 0x61, 0x61, 0xFF]
    decode bytes = .ok ({ solc := some (.release 0 8 9) }, 13) ∧
      ¬ WellFormedMap (bytes.take 13) := by
  intro bytes
  have h : decode bytes = .ok ({ solc := some (.release 0 8 9) }, 13) := by decide +kernel
  have hmap : Spells ValidText (.holder 4) [0xA2] := .holder (.map (@Head.short 5 2 (by decide)))
  have hsolc : Spells ValidText .leaf [0x64, 0x73, 0x6F, 0x6C, 0x63] :=
    .leaf (.string (.inr rfl) (@Chunk.mk ValidText 3 [0x64] [0x73, 0x6F, 0x6C, 0x63]
      (.short (by decide)) fun _ => by rw [ValidText]; decide +kernel))
  have hrelease : Spells ValidText .leaf [0x43, 0x00, 0x08, 0x09] :=
    .leaf (.string (.inl rfl) (@Chunk.mk ValidText 2 [0x43] [0x00, 0x08, 0x09]
      (.short (by decide)) fun hkind => absurd hkind (by decide)))
  have hkey : Spells ValidText .leaf [0x61, 0x61] :=
    .leaf (.string (.inr rfl) (@Chunk.mk ValidText 3 [0x61] [0x61]
      (.short (by decide)) fun _ => by rw [ValidText]; decide +kernel))
  have hfront : Cbor.Run ValidText ⟨1, []⟩ (bytes.take 12) ⟨1, []⟩ :=
    .step hmap rfl (.step hsolc rfl (.step hrelease rfl (.step hkey rfl (.refl _))))
  have hstrays : Strays ⟨1, []⟩ (bytes.take 13) :=
    ⟨⟨1, []⟩, bytes.take 12, .stop, [stopByte], [], rfl, hfront, by decide, .stop, rfl⟩
  exact ⟨h, fun hwhole =>
    (decode_wellFormedMap_iff (by decide) h).1 hwhole hstrays.departs⟩

end Provenance.Metadata
