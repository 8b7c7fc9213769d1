/-!
Byte strings. Everything the library reads from a wire or a file is a list of
bytes, so that a reader returns the bytes it left and a theorem about a reader
is a theorem about lists.
-/

namespace Provenance

abbrev Bytes := List UInt8

namespace Bytes

/-- The number whose big-endian digits to base 256 are the given bytes. -/
def bigEndian (bytes : Bytes) : Nat :=
  bytes.foldl (fun acc byte => acc * 256 + byte.toNat) 0

def littleEndian (bytes : Bytes) : Nat :=
  bytes.foldr (fun byte acc => byte.toNat + 256 * acc) 0

/-- The first `n` bytes and what follows them, when there are that many. -/
def split? (n : Nat) (bytes : Bytes) : Option (Bytes × Bytes) :=
  if n ≤ bytes.length then some (bytes.take n, bytes.drop n) else none

theorem split?_eq_some_iff {n : Nat} {bytes head rest : Bytes} :
    split? n bytes = some (head, rest) ↔ bytes = head ++ rest ∧ head.length = n := by
  unfold split?
  constructor
  · intro h
    split at h
    · rename_i hn
      simp only [Option.some.injEq, Prod.mk.injEq] at h
      obtain ⟨rfl, rfl⟩ := h
      exact ⟨(List.take_append_drop n bytes).symm, by simp [List.length_take, hn]⟩
    · cases h
  · rintro ⟨rfl, rfl⟩
    simp

def ofText (text : String) : Bytes := text.toUTF8.data.toList

end Bytes

end Provenance
