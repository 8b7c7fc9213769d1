import Provenance.Hex
import Provenance.Text.Base58

/-!
Texts of bytes tell the bytes apart. Hexadecimal text can be read back pair by pair.
In base 58 the bytes are one number, which the text gives back, and so many bytes have
that number in one way only.
-/

namespace Provenance

namespace Bytes

/-- By induction on the bytes: what was read before them matters, and so does each of them. -/
theorem foldl_bigEndian_inj {a b : Bytes} (hlength : a.length = b.length) {m n : Nat}
    (h : a.foldl (fun acc byte => acc * 256 + byte.toNat) m =
      b.foldl (fun acc byte => acc * 256 + byte.toNat) n) : m = n ∧ a = b := by
  induction a generalizing b m n with
  | nil =>
    obtain rfl := List.length_eq_zero_iff.1 hlength.symm
    exact ⟨h, rfl⟩
  | cons x a ih =>
    cases b with
    | nil => cases hlength
    | cons y b =>
      obtain ⟨hnumber, rfl⟩ := ih (Nat.succ.inj hlength) h
      dsimp only at hnumber
      have hx := x.toNat_lt
      have hy := y.toNat_lt
      have hbyte : x.toNat = y.toNat := by omega
      exact ⟨by omega, by rw [UInt8.toNat.inj hbyte]⟩

/-- So many bytes are determined by their number. -/
theorem eq_of_bigEndian_eq {a b : Bytes} (hlength : a.length = b.length)
    (h : a.bigEndian = b.bigEndian) : a = b :=
  (foldl_bigEndian_inj hlength h).2

end Bytes

namespace Base58

def absorb (n : Nat) (text : List Char) : Nat :=
  text.foldl (fun acc c => acc * 58 + alphabet.idxOf c) n

theorem idxOf_digit {value : Nat} (h : value < 58) : alphabet.idxOf (digit value) = value := by
  have hall : ∀ value < 58, alphabet.idxOf (digit value) = value := by decide +kernel
  exact hall value h

theorem absorb_digits (n : Nat) (acc : List Char) : absorb 0 (digits n acc) = absorb n acc := by
  fun_induction digits n acc with
  | case1 acc => rfl
  | case2 n acc hn ih =>
    have hnumber : n / 58 * 58 + alphabet.idxOf (digit (n % 58)) = n := by
      rw [idxOf_digit (Nat.mod_lt n (by decide))]
      omega
    rw [ih, absorb, List.foldl_cons, hnumber]
    rfl

theorem absorb_leading (zeros : Nat) (text : List Char) :
    absorb 0 (List.replicate zeros '1' ++ text) = absorb 0 text := by
  induction zeros with
  | zero => rfl
  | succ zeros ih => exact ih

/-- The text is a numeral for the number of the bytes. -/
theorem absorb_encode (bytes : Bytes) : absorb 0 (encode bytes).toList = bytes.bigEndian := by
  rw [encode, String.toList_ofList, absorb_leading, absorb_digits]
  rfl

/-- So many bytes are determined by their text. -/
theorem eq_of_encode_eq {a b : Bytes} (hlength : a.length = b.length)
    (h : encode a = encode b) : a = b := by
  refine Bytes.eq_of_bigEndian_eq hlength ?_
  rw [← absorb_encode, h, absorb_encode]

end Base58

namespace Hex

theorem digit_inj {m n : Nat} (hm : m < 16) (hn : n < 16) (h : digit m = digit n) : m = n := by
  have hall : ∀ m < 16, ∀ n < 16, digit m = digit n → m = n := by decide +kernel
  exact hall m hm n hn h

theorem pair_injective : Function.Injective pair := by
  intro a b h
  obtain ⟨hhigh, hlow⟩ := List.cons.inj h
  have hlow := (List.cons.inj hlow).1
  have ha := a.toNat_lt
  have hb := b.toNat_lt
  have hhigh := digit_inj (by omega) (by omega) hhigh
  have hlow := digit_inj (by omega) (by omega) hlow
  exact UInt8.toNat.inj (by omega)

theorem flatMap_pair_inj {a b : Bytes} (h : a.flatMap pair = b.flatMap pair) : a = b := by
  induction a generalizing b with
  | nil =>
    cases b with
    | nil => rfl
    | cons y b => cases h
  | cons x a ih =>
    cases b with
    | nil => cases h
    | cons y b =>
      rw [List.flatMap_cons, List.flatMap_cons] at h
      obtain ⟨hpair, hrest⟩ := List.append_inj h rfl
      rw [pair_injective hpair, ih hrest]

theorem encode_injective : Function.Injective encode := by
  intro a b h
  exact flatMap_pair_inj (String.ofList_injective h)

end Hex

end Provenance
