import Mathlib
import Provenance.Number.Unsigned

/-!
Decimal numerals of numbers below `2 ^ 64`. A text is read as such a number exactly if
it is a numeral of it, but for one plus sign in front. A numeral may begin with zeros;
without them it is the one that is written for its number.
-/

namespace Provenance.Unsigned

variable {text : List Char} {acc n : Nat}

def continued (acc : Nat) (text : List Char) : Nat :=
  text.foldl (fun n c => 10 * n + Ascii.hexValue c) acc

structure IsNumeral (text : List Char) (n : Nat) : Prop where
  ne_nil : text ≠ []
  digits : ∀ c ∈ text, Ascii.isDigit c = true
  value : Ascii.numberOf 10 text = n
  fits : n < 2 ^ 64

theorem toNat_of_isDigit {c : Char} (h : Ascii.isDigit c = true) :
    48 ≤ c.toNat ∧ c.toNat ≤ 57 := by
  obtain ⟨hlow, hhigh⟩ := Bool.and_eq_true_iff.1 h
  exact ⟨of_decide_eq_true hlow, of_decide_eq_true hhigh⟩

theorem hexValue_of_isDigit {c : Char} (h : Ascii.isDigit c = true) :
    Ascii.hexValue c = c.toNat - 48 := by
  rw [Ascii.hexValue, if_pos h]

theorem hexValue_lt {c : Char} (h : Ascii.isDigit c = true) : Ascii.hexValue c < 10 := by
  have hc := toNat_of_isDigit h
  rw [hexValue_of_isDigit h]
  omega

theorem digitChar_hexValue {c : Char} (h : Ascii.isDigit c = true) :
    (Ascii.hexValue c).digitChar = c := by
  have hc := toNat_of_isDigit h
  apply Char.toNat_inj.1
  rw [Nat.toNat_digitChar_of_lt_ten (hexValue_lt h), hexValue_of_isDigit h]
  omega

theorem le_continued (acc : Nat) (text : List Char) : acc ≤ continued acc text := by
  induction text generalizing acc with
  | nil => exact Nat.le_refl acc
  | cons c text ih =>
    have hrest := ih (10 * acc + Ascii.hexValue c)
    change acc ≤ continued (10 * acc + Ascii.hexValue c) text
    omega

/-! Reading -/

/-- Digits are read up to the first that makes the number too large, and digits behind
it do not make it smaller. -/
theorem digits_eq_ok_iff (hacc : acc < 2 ^ 64) : digits acc text = .ok n ↔
    (∀ c ∈ text, Ascii.isDigit c = true) ∧ continued acc text = n ∧ n < 2 ^ 64 := by
  induction text generalizing acc with
  | nil =>
    simp only [digits, continued, List.foldl_nil, Except.ok.injEq, List.not_mem_nil,
      false_implies, implies_true, true_and]
    exact ⟨fun h => ⟨h, h ▸ hacc⟩, fun h => h.1⟩
  | cons c text ih =>
    rw [digits, List.forall_mem_cons]
    by_cases hc : Ascii.isDigit c = true
    · by_cases hfits : 10 * acc + Ascii.hexValue c < 2 ^ 64
      · rw [if_pos hc, if_pos hfits, ih hfits, and_iff_right hc]
        rfl
      · have hle := le_continued (10 * acc + Ascii.hexValue c) text
        rw [if_pos hc, if_neg hfits]
        constructor
        · rintro ⟨⟩
        · rintro ⟨-, rfl, hn⟩
          exact absurd (Nat.lt_of_le_of_lt hle hn) hfits
    · simp [hc]

theorem digits_zero_eq_ok_iff (htext : text ≠ []) : digits 0 text = .ok n ↔ IsNumeral text n := by
  rw [digits_eq_ok_iff (by decide)]
  exact ⟨fun h => ⟨htext, h.1, h.2.1, h.2.2⟩, fun h => ⟨h.digits, h.value, h.fits⟩⟩

theorem not_isNumeral_of_plus {rest : List Char} : ¬ IsNumeral ('+' :: rest) n := by
  intro h
  exact absurd (h.digits '+' List.mem_cons_self) (by decide)

/-- What is read as a number is a numeral, with or without a plus sign. -/
theorem parse_eq_ok_iff : parse text = .ok n ↔
    IsNumeral text n ∨ ∃ digits, text = '+' :: digits ∧ IsNumeral digits n := by
  unfold parse
  split
  · constructor
    · rintro ⟨⟩
    · rintro (h | ⟨digits, h, -⟩)
      · exact absurd rfl h.ne_nil
      · cases h
  · constructor
    · rintro ⟨⟩
    · rintro (h | ⟨digits, h, hdigits⟩)
      · exact absurd h not_isNumeral_of_plus
      · obtain ⟨-, rfl⟩ := List.cons.inj h
        exact absurd rfl hdigits.ne_nil
  · rename_i rest hrest
    have hne : rest ≠ [] := fun h => hrest (by rw [h])
    rw [digits_zero_eq_ok_iff hne]
    constructor
    · exact fun h => .inr ⟨rest, rfl, h⟩
    · rintro (h | ⟨digits, h, hdigits⟩)
      · exact absurd h not_isNumeral_of_plus
      · obtain ⟨-, rfl⟩ := List.cons.inj h
        exact hdigits
  · rename_i hnil hone hplus
    rw [digits_zero_eq_ok_iff fun h => hnil h]
    constructor
    · exact .inl
    · rintro (h | ⟨digits, h, -⟩)
      · exact h
      · exact absurd h (hplus digits)

theorem lt_of_parse_eq_ok (h : parse text = .ok n) : n < 2 ^ 64 := by
  obtain hnumeral | ⟨digits, -, hnumeral⟩ := parse_eq_ok_iff.1 h
  · exact hnumeral.fits
  · exact hnumeral.fits

/-! Writing -/

def withoutZeros (text : List Char) : List Char :=
  match text.dropWhile (· = '0') with
  | [] => ['0']
  | rest => rest

theorem toDigits_continued (hacc : 0 < acc) (htext : ∀ c ∈ text, Ascii.isDigit c = true) :
    Nat.toDigits 10 (continued acc text) = Nat.toDigits 10 acc ++ text := by
  induction text generalizing acc with
  | nil => exact (List.append_nil _).symm
  | cons c text ih =>
    obtain ⟨hc, htext⟩ := List.forall_mem_cons.1 htext
    have hvalue := hexValue_lt hc
    have hone : Nat.toDigits 10 (Ascii.hexValue c) = [c] := by
      rw [Nat.toDigits_of_lt_base hvalue, digitChar_hexValue hc]
    have hnext := Nat.toDigits_append_toDigits (by decide) hacc hvalue
    have hpos : 0 < 10 * acc + Ascii.hexValue c := by omega
    calc Nat.toDigits 10 (continued acc (c :: text))
      _ = Nat.toDigits 10 (10 * acc + Ascii.hexValue c) ++ text := ih hpos htext
      _ = Nat.toDigits 10 acc ++ c :: text := by
        rw [← hnext, hone, List.append_assoc, List.singleton_append]

theorem continued_zero_dropWhile (text : List Char) :
    continued 0 (text.dropWhile (· = '0')) = continued 0 text := by
  induction text with
  | nil => rfl
  | cons c text ih =>
    by_cases hc : c = '0'
    · subst hc
      rw [List.dropWhile_cons_of_pos (by decide), ih]
      rfl
    · rw [List.dropWhile_cons_of_neg (by simpa using hc)]

/-- The numeral that is written for a number is each of its numerals without zeros in front. -/
theorem IsNumeral.toDigits_eq (h : IsNumeral text n) : Nat.toDigits 10 n = withoutZeros text := by
  rw [← h.value]
  change Nat.toDigits 10 (continued 0 text) = _
  rw [← continued_zero_dropWhile text, withoutZeros]
  cases hdrop : text.dropWhile (· = '0') with
  | nil => rfl
  | cons c rest =>
    have hmem : ∀ d ∈ c :: rest, Ascii.isDigit d = true := fun d hd =>
      h.digits d (List.dropWhile_sublist _ |>.mem (hdrop ▸ hd))
    obtain ⟨hc, hrest⟩ := List.forall_mem_cons.1 hmem
    have hnonzero : c ≠ '0' := by
      have hhead := List.head?_dropWhile_not (fun c => decide (c = '0')) text
      rw [hdrop] at hhead
      simpa using hhead
    have hpos : 0 < Ascii.hexValue c := by
      rw [Nat.pos_iff_ne_zero]
      intro hzero
      have hback := digitChar_hexValue hc
      rw [hzero] at hback
      exact hnonzero hback.symm
    have hone : Nat.toDigits 10 (Ascii.hexValue c) = [c] := by
      rw [Nat.toDigits_of_lt_base (hexValue_lt hc), digitChar_hexValue hc]
    have hfirst : continued 0 (c :: rest) = continued (Ascii.hexValue c) rest := by
      simp [continued]
    rw [hfirst, toDigits_continued hpos hrest, hone, List.singleton_append]

theorem continued_eq_ofDigitChars (htext : ∀ c ∈ text, Ascii.isDigit c = true) (acc : Nat) :
    continued acc text = Nat.ofDigitChars 10 text acc := by
  rw [Nat.ofDigitChars_eq_foldl, continued]
  refine List.foldl_ext _ _ acc fun n c hc => ?_
  rw [hexValue_of_isDigit (htext c hc)]
  rfl

theorem isDigit_of_mem_toDigits {c : Char} (h : c ∈ Nat.toDigits 10 n) :
    Ascii.isDigit c = true := by
  have hdigit := Char.isDigit_iff_toNat.1 (Nat.isDigit_of_mem_toDigits (by decide) (by decide) h)
  exact Bool.and_eq_true_iff.2 ⟨decide_eq_true hdigit.1, decide_eq_true hdigit.2⟩

theorem numberOf_toDigits (n : Nat) : Ascii.numberOf 10 (Nat.toDigits 10 n) = n := by
  change continued 0 (Nat.toDigits 10 n) = n
  rw [continued_eq_ofDigitChars fun _ => isDigit_of_mem_toDigits, Nat.ofDigitChars_ten_toDigits]

theorem isNumeral_toDigits (h : n < 2 ^ 64) : IsNumeral (Nat.toDigits 10 n) n where
  ne_nil := Nat.toDigits_ne_nil
  digits _ := isDigit_of_mem_toDigits
  value := numberOf_toDigits n
  fits := h

/-- A number that is written is read back unless it is too large. -/
theorem parse_toDigits_eq_ok_iff {m : Nat} :
    parse (Nat.toDigits 10 n) = .ok m ↔ m = n ∧ n < 2 ^ 64 := by
  rw [parse_eq_ok_iff]
  constructor
  · rintro (h | ⟨digits, hplus, -⟩)
    · obtain rfl := h.value.symm.trans (numberOf_toDigits n)
      exact ⟨rfl, h.fits⟩
    · have hmem : '+' ∈ Nat.toDigits 10 n := hplus ▸ List.mem_cons_self
      exact absurd (isDigit_of_mem_toDigits hmem) (by decide)
  · rintro ⟨rfl, hfits⟩
    exact .inl (isNumeral_toDigits hfits)

theorem IsNumeral.withoutZeros (h : IsNumeral text n) : IsNumeral (withoutZeros text) n :=
  h.toDigits_eq ▸ isNumeral_toDigits h.fits

end Provenance.Unsigned
