import Provenance.Proofs.Cbor.Grammar

/-!
The elements of items: those pieces that have no structure of their own, which
are items that hold no other, heads of items that do, and breaks. No two
elements begin alike, so bytes fall into elements in one way at most.
-/

namespace Provenance.Cbor

/-- What an element is to the nesting of items. A reserved element is a simple
value in two bytes that belongs in one. -/
inductive Element where
  | leaf
  | reserved
  | holder (items : Nat)
  | opened (pairs : Bool)
  | stop
  deriving DecidableEq, Repr

inductive Spells (text : Bytes → Prop) : Element → Bytes → Prop
  | leaf {bytes : Bytes} (hleaf : Leaf text bytes) : Spells text .leaf bytes
  | reserved {value : UInt8} (hvalue : value.toNat < 32) : Spells text .reserved [0xF8, value]
  | holder {n : Nat} {head : Bytes} (hhead : Holder n head) : Spells text (.holder n) head
  | openArray : Spells text (.opened false) [openHead 4]
  | openMap : Spells text (.opened true) [openHead 5]
  | stop : Spells text .stop [stopByte]

def chunkRun (kind : Nat) (bytes : Bytes) : Except Fault Bytes :=
  match bytes with
  | [] => .error .endOfInput
  | head :: rest =>
    if head = stopByte then .ok rest
    else
      match _h : definite kind (head :: rest) with
      | .error fault => .error fault
      | .ok (_, rest') => chunkRun kind rest'
  termination_by bytes.length
  decreasing_by exact definite_length _h

/-- What a head of the given major type, low bits and argument begins. The
content of a string belongs to it. -/
def headed (kind low n : Nat) (rest : Bytes) : Except Fault (Element × Bytes) :=
  match kind with
  | 0 | 1 => .ok (.leaf, rest)
  | 2 | 3 => (take n rest).map fun taken => (.leaf, taken.2)
  | 4 => .ok (.holder n, rest)
  | 5 => .ok (.holder (2 * n), rest)
  | 6 => .ok (.holder 1, rest)
  | _ => .ok (if low = 24 ∧ n < 32 then .reserved else .leaf, rest)

def nextElement : Bytes → Except Fault (Element × Bytes)
  | [] => .error .endOfInput
  | head :: rest =>
    if low head = openEnded then
      match major head with
      | 2 => (chunkRun 2 rest).map (.leaf, ·)
      | 3 => (chunkRun 3 rest).map (.leaf, ·)
      | 4 => .ok (.opened false, rest)
      | 5 => .ok (.opened true, rest)
      | 7 => .ok (.stop, rest)
      | _ => mismatch head rest
    else do
      let (n, rest) ← argument (low head) rest
      headed (major head) (low head) n rest

/-- A string in one piece is read in front of anything. -/
theorem Head.definite_append {kind : Nat} {head content : Bytes}
    (h : Head kind content.length head) (hkind : kind < 8) (rest : Bytes) :
    definite kind (head ++ (content ++ rest)) = .ok (content, rest) := by
  obtain ⟨first, digits, rfl, hmajor, hlow, -, hargument⟩ := h.exists_first hkind
  have hne : low first ≠ openEnded := by
    unfold openEnded
    omega
  simp only [List.cons_append, definite, hmajor, hne, ne_eq, not_false_eq_true, and_self, if_pos,
    hargument, bind, Except.bind, take_append]

theorem Chunk.definite_append {text : Bytes → Prop} {kind : Nat} {chunk : Bytes}
    (h : Chunk text kind chunk) (hkind : kind < 8) :
    ∃ first tail content, chunk = first :: tail ∧ low first < 28 ∧
      (kind = 3 → text content) ∧
      ∀ rest, definite kind (chunk ++ rest) = .ok (content, rest) := by
  obtain ⟨hhead, htext⟩ := h
  rename_i head content
  have hread := hhead.definite_append hkind
  obtain ⟨first, digits, rfl, -, hlow, -, -⟩ := hhead.exists_first hkind
  refine ⟨first, digits ++ content, content, rfl, hlow, htext, fun rest => ?_⟩
  rw [List.append_assoc]
  exact hread rest

theorem Chunks.chunkRun_append {text : Bytes → Prop} {kind : Nat} {chunks : Bytes}
    (h : Chunks text kind chunks) (hkind : kind < 8) (rest : Bytes) :
    chunkRun kind (chunks ++ stopByte :: rest) = .ok rest := by
  induction h with
  | nil =>
    rw [List.nil_append, chunkRun, if_pos rfl]
  | @cons chunk later hchunk _ ih =>
    obtain ⟨first, tail, content, rfl, hlow, -, hdefinite⟩ := hchunk.definite_append hkind
    have hnext := hdefinite (later ++ stopByte :: rest)
    have hfirst : first ≠ stopByte := by
      rintro rfl
      exact absurd hlow (by decide)
    rw [List.append_assoc, List.cons_append, chunkRun, if_neg hfirst]
    rw [List.cons_append] at hnext
    split
    · simp_all
    · rename_i content' rest' heq
      rw [hnext] at heq
      cases heq
      exact ih

theorem major_low_openHead {kind : Nat} (hkind : kind < 8) :
    major (openHead kind) = kind ∧ low (openHead kind) = openEnded :=
  major_low_ofNat hkind (by decide)

theorem Head.nextElement_append {kind n : Nat} {head : Bytes} (h : Head kind n head)
    (hkind : kind < 8) (rest : Bytes) :
    ∃ low, (low = 24 ↔ head.length = 2) ∧ nextElement (head ++ rest) = headed kind low n rest := by
  obtain ⟨first, digits, rfl, hmajor, hlow, hwidth, hargument⟩ := h.exists_first hkind
  have hne : low first ≠ openEnded := by
    unfold openEnded
    omega
  refine ⟨low first, hwidth, ?_⟩
  rw [List.cons_append, nextElement, if_neg hne, hargument, hmajor]
  rfl

theorem head_reserved (value : UInt8) : Head 7 value.toNat [0xF8, value] := by
  have h := @Head.wide 7 0 [value] (by decide) rfl
  have hvalue : Bytes.bigEndian [value] = value.toNat := by simp [Bytes.bigEndian]
  rwa [hvalue] at h

theorem Leaf.nextElement_append {text : Bytes → Prop} {bytes : Bytes} (h : Leaf text bytes)
    (rest : Bytes) : nextElement (bytes ++ rest) = .ok (.leaf, rest) := by
  cases h with
  | @number kind n _ hkind hhead =>
    obtain ⟨low, -, hnext⟩ := hhead.nextElement_append (by omega) rest
    rw [hnext]
    obtain rfl | rfl : kind = 0 ∨ kind = 1 := by omega
    · rfl
    · rfl
  | @string kind _ hkind hchunk =>
    obtain ⟨hhead, -⟩ := hchunk
    rename_i head content
    obtain ⟨low, -, hnext⟩ := hhead.nextElement_append (by omega) (content ++ rest)
    rw [List.append_assoc, hnext]
    rcases hkind with rfl | rfl
    · simp only [headed, take_append, Except.map]
    · simp only [headed, take_append, Except.map]
  | @openString kind chunks hkind hchunks =>
    have hrun := hchunks.chunkRun_append (by omega) rest
    obtain ⟨hmajor, hlow⟩ := major_low_openHead (show kind < 8 by omega)
    rw [List.cons_append, nextElement, if_pos hlow, hmajor, List.append_assoc,
      List.singleton_append]
    rcases hkind with rfl | rfl
    · simp only [hrun, Except.map]
    · simp only [hrun, Except.map]
  | @simple n _ hhead hvalue =>
    obtain ⟨low, hwidth, hnext⟩ := hhead.nextElement_append (by omega) rest
    have hbig : ¬ (low = 24 ∧ n < 32) := by
      rintro ⟨hlow, hn⟩
      have := hvalue (hwidth.1 hlow)
      omega
    rw [hnext]
    simp only [headed, if_neg hbig]

theorem Holder.nextElement_append {n : Nat} {head : Bytes} (h : Holder n head) (rest : Bytes) :
    nextElement (head ++ rest) = .ok (.holder n, rest) := by
  cases h with
  | array hhead =>
    obtain ⟨low, -, hnext⟩ := hhead.nextElement_append (by omega) rest
    exact hnext
  | map hhead =>
    obtain ⟨low, -, hnext⟩ := hhead.nextElement_append (by omega) rest
    exact hnext
  | tag hhead =>
    obtain ⟨low, -, hnext⟩ := hhead.nextElement_append (by omega) rest
    exact hnext

/-- An element is read off the front of whatever it begins. -/
theorem Spells.nextElement_append {text : Bytes → Prop} {e : Element} {bytes : Bytes}
    (h : Spells text e bytes) (rest : Bytes) : nextElement (bytes ++ rest) = .ok (e, rest) := by
  cases h with
  | leaf hleaf => exact hleaf.nextElement_append rest
  | @reserved value hvalue =>
    obtain ⟨low, hwidth, hnext⟩ := (head_reserved value).nextElement_append (by omega) rest
    rw [hnext]
    simp only [headed, if_pos (And.intro (hwidth.2 rfl) hvalue)]
  | holder hhead => exact hhead.nextElement_append rest
  | openArray => rfl
  | openMap => rfl
  | stop => rfl

theorem Spells.mono {text text' : Bytes → Prop}
    (htext : ∀ content, text content → text' content) {e : Element} {bytes : Bytes}
    (h : Spells text e bytes) : Spells text' e bytes := by
  cases h with
  | leaf hleaf => exact .leaf (hleaf.mono htext)
  | reserved hvalue => exact .reserved hvalue
  | holder hhead => exact .holder hhead
  | openArray => exact .openArray
  | openMap => exact .openMap
  | stop => exact .stop

/-- No two elements begin alike. -/
theorem Spells.unique {text text' : Bytes → Prop} {e e' : Element} {a a' rest rest' : Bytes}
    (h : Spells text e a) (h' : Spells text' e' a') (heq : a ++ rest = a' ++ rest') :
    e = e' ∧ a = a' ∧ rest = rest' := by
  have hnext := h.nextElement_append rest
  rw [heq, h'.nextElement_append rest'] at hnext
  cases hnext
  exact ⟨rfl, List.append_cancel_right heq, rfl⟩

end Provenance.Cbor
