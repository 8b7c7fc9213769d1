import Provenance.Json.Scanner
import Provenance.Json.Writer
import Provenance.Proofs.Text.Utf8

/-!
The leaves of a written text, read again. A string ends at the quote behind its
escapes, a whole number at the first byte that continues none, and both come back
as they were.
-/

namespace Provenance.Json

open Bytes (ofChars ofText)

/-! Strings -/

@[simp] theorem prepend_nil (following : Except Fault (Bytes × Bytes)) :
    prepend [] following = following := by
  cases following <;> rfl

theorem prepend_append (front back : Bytes) (following : Except Fault (Bytes × Bytes)) :
    prepend (front ++ back) following = prepend front (prepend back following) := by
  cases following with
  | error fault => rfl
  | ok read => simp [prepend, Except.map]

theorem stringContent_quote (rest : Bytes) : stringContent (34 :: rest) = .ok ([], rest) := by
  rw [stringContent.eq_def]
  rfl

def IsPlain (byte : UInt8) : Prop := byte ≠ 34 ∧ byte ≠ 92 ∧ 0x20 ≤ byte.toNat

theorem stringContent_byte {byte : UInt8} (h : IsPlain byte) (rest : Bytes) :
    stringContent (byte :: rest) = prepend [byte] (stringContent rest) := by
  obtain ⟨hquote, hescape, hcontrol⟩ := h
  rw [stringContent.eq_def]
  simp only [if_neg hquote, if_neg hescape, if_neg (Nat.not_lt.mpr hcontrol)]

theorem stringContent_letter {mark plain : UInt8} (h : letterEscape? mark = some plain)
    (rest : Bytes) : stringContent (92 :: mark :: rest) = prepend [plain] (stringContent rest) := by
  rw [stringContent.eq_def]
  simp [h]

theorem stringContent_unit {a b c d : UInt8} {unit : Nat} (h : codeUnit? a b c d = some unit)
    (hunit : unit < 0xD800) (rest : Bytes) :
    stringContent (92 :: 117 :: a :: b :: c :: d :: rest) =
      prepend (String.utf8EncodeChar (Char.ofNat unit)) (stringContent rest) := by
  have hletter : letterEscape? 117 = none := by decide
  have hlow : ¬ (0xDC00 ≤ unit ∧ unit ≤ 0xDFFF) := by omega
  rw [stringContent.eq_def]
  simp [hletter, h, hlow, hunit, Bytes.ofText_eq, ofChars]

theorem stringContent_plain {bytes : Bytes} (h : ∀ byte ∈ bytes, IsPlain byte) (rest : Bytes) :
    stringContent (bytes ++ rest) = prepend bytes (stringContent rest) := by
  induction bytes with
  | nil => simp
  | cons byte bytes ih =>
    have hrest := ih fun b hb => h b (List.mem_cons_of_mem _ hb)
    rw [List.cons_append, stringContent_byte (h byte List.mem_cons_self), hrest, ← prepend_append,
      List.singleton_append]

/-- A character above the controls that is neither quote nor backslash has plain
bytes only. -/
theorem isPlain_of_mem_encode {c : Char} (hquote : c ≠ '"') (hescape : c ≠ '\\')
    (hcontrol : 0x20 ≤ c.toNat) {byte : UInt8} (h : byte ∈ String.utf8EncodeChar c) :
    IsPlain byte := by
  have hquote : c.val.toNat ≠ 34 := fun h => hquote (Char.toNat_inj.mp h)
  have hescape : c.val.toNat ≠ 92 := fun h => hescape (Char.toNat_inj.mp h)
  have hcontrol : 0x20 ≤ c.val.toNat := hcontrol
  suffices 0x20 ≤ byte.toNat ∧ byte.toNat ≠ 34 ∧ byte.toNat ≠ 92 from
    ⟨fun e => this.2.1 (by rw [e]; rfl), fun e => this.2.2 (by rw [e]; rfl), this.1⟩
  rw [String.utf8EncodeChar.eq_1] at h
  generalize c.val.toNat = n at *
  split at h
  · obtain rfl := List.mem_singleton.mp h
    rw [UInt8.toNat_ofNat']
    omega
  split at h
  · simp only [List.mem_cons, List.not_mem_nil, or_false] at h
    rcases h with rfl | rfl <;> rw [UInt8.toNat_ofNat'] <;> omega
  split at h
  · simp only [List.mem_cons, List.not_mem_nil, or_false] at h
    rcases h with rfl | rfl | rfl <;> rw [UInt8.toNat_ofNat'] <;> omega
  · simp only [List.mem_cons, List.not_mem_nil, or_false] at h
    rcases h with rfl | rfl | rfl | rfl <;> rw [UInt8.toNat_ofNat'] <;> omega

/-- The escape of a control without a letter gives its code point in four digits. -/
theorem exists_ofChars_fourDigits : ∀ n < 0x20, ∃ a b c d : UInt8,
    ofChars (fourDigits n) = [a, b, c, d] ∧ codeUnit? a b c d = some n := by
  intro n hn
  have hdigits : ofChars (fourDigits n) = [48, 48, UInt8.ofNat (48 + n / 16),
      UInt8.ofNat (if n % 16 < 10 then 48 + n % 16 else 87 + n % 16)] := by
    decide +revert
  refine ⟨_, _, _, _, hdigits, ?_⟩
  decide +revert

theorem stringContent_control {c : Char} (h : c.toNat < 0x20) (rest : Bytes) :
    stringContent (ofChars (['\\', 'u'] ++ fourDigits c.toNat) ++ rest) =
      prepend (String.utf8EncodeChar c) (stringContent rest) := by
  obtain ⟨a, b, d, e, hdigits, hunit⟩ := exists_ofChars_fourDigits c.toNat h
  have hc := stringContent_unit hunit (by omega) rest
  rw [Char.ofNat_toNat] at hc
  rw [Bytes.ofChars_append, hdigits]
  exact hc

/-- A written character is read as its bytes. -/
theorem stringContent_escapeChar (c : Char) (rest : Bytes) :
    stringContent (ofChars (escapeChar c) ++ rest) =
      prepend (String.utf8EncodeChar c) (stringContent rest) := by
  rw [escapeChar]
  iterate 7
    split
    · subst c
      exact stringContent_letter (by decide) rest
  rename_i hquote hescape _ _ _ _ _
  split
  · rename_i hcontrol
    exact stringContent_control hcontrol rest
  · rename_i hcontrol
    rw [Bytes.ofChars_cons, Bytes.ofChars_nil, List.append_nil]
    exact stringContent_plain
      (fun _ => isPlain_of_mem_encode hquote hescape (Nat.le_of_not_lt hcontrol)) rest

theorem stringContent_escaped (chars : List Char) (rest : Bytes) :
    stringContent (ofChars (chars.flatMap escapeChar) ++ 34 :: rest) = .ok (ofChars chars, rest) := by
  induction chars with
  | nil => exact stringContent_quote rest
  | cons c chars ih =>
    rw [List.flatMap_cons, Bytes.ofChars_append, List.append_assoc, stringContent_escapeChar, ih]
    rfl

/-- A written string, read behind its opening quote. -/
theorem stringToken_quote (text : String) (rest : Bytes) :
    stringToken false (ofChars (text.toList.flatMap escapeChar) ++ 34 :: rest) = .ok (text, rest) := by
  have h := Utf8.decode_ofText text
  rw [Bytes.ofText_eq] at h
  have hcontent := stringContent_escaped text.toList rest
  simp [stringToken, hcontent, h, bind, Except.bind]

/-! Whole numbers -/

def AreDigits (chars : List Char) : Prop := ∀ c ∈ chars, c.isDigit

theorem areDigits_toDigits (n : Nat) : AreDigits (Nat.toDigits 10 n) :=
  fun _ h => Nat.isDigit_of_mem_toDigits (by decide) (by decide) h

theorem toNat_of_isDigit {c : Char} (h : c.isDigit) : 48 ≤ c.toNat ∧ c.toNat ≤ 57 :=
  Char.isDigit_iff_toNat.mp h

theorem toNat_digit {c : Char} (h : c.isDigit) : (UInt8.ofNat c.toNat).toNat = c.toNat := by
  have := toNat_of_isDigit h
  rw [UInt8.toNat_ofNat']
  omega

theorem isDigit_digit {c : Char} (h : c.isDigit) : isDigit (UInt8.ofNat c.toNat) := by
  have hc := toNat_of_isDigit h
  simp only [isDigit, toNat_digit h]
  simp [hc]

theorem ofChars_digits {c : Char} {chars : List Char} (h : AreDigits (c :: chars)) :
    ofChars (c :: chars) = UInt8.ofNat c.toNat :: ofChars chars := by
  have hc := toNat_of_isDigit (h c List.mem_cons_self)
  exact Bytes.ofChars_ascii_cons (by omega) chars

theorem AreDigits.tail {c : Char} {chars : List Char} (h : AreDigits (c :: chars)) :
    AreDigits chars := fun d hd => h d (List.mem_cons_of_mem _ hd)

theorem isDigit_of_mem_ofChars {chars : List Char} (h : AreDigits chars) :
    ∀ byte ∈ ofChars chars, isDigit byte := by
  induction chars with
  | nil => simp
  | cons c chars ih =>
    rw [ofChars_digits h]
    intro byte hbyte
    rcases List.mem_cons.mp hbyte with rfl | hbyte
    · exact isDigit_digit (h c List.mem_cons_self)
    · exact ih h.tail byte hbyte

/-- Digits denote the number that was written. -/
theorem digitsValue_ofChars {chars : List Char} (h : AreDigits chars) (acc : Nat) :
    digitsValue acc (ofChars chars) = Nat.ofDigitChars 10 chars acc := by
  induction chars generalizing acc with
  | nil => rfl
  | cons c chars ih =>
    rw [ofChars_digits h, Nat.ofDigitChars_cons, ← ih h.tail, digitsValue, List.foldl_cons,
      toNat_digit (h c List.mem_cons_self)]
    rfl

theorem le_digitsValue (acc : Nat) (digits : Bytes) : acc ≤ digitsValue acc digits := by
  induction digits generalizing acc with
  | nil => exact Nat.le_refl _
  | cons byte digits ih =>
    have h := ih (10 * acc + (byte.toNat - 48))
    have hstep : digitsValue acc (byte :: digits) =
      digitsValue (10 * acc + (byte.toNat - 48)) digits := rfl
    omega

/-- Digits of a number that fits sixty-four bits are all taken. -/
theorem absorb_eq {acc : Nat} {digits : Bytes} (h : digitsValue acc digits < 2 ^ 64) :
    absorb acc digits = (digitsValue acc digits, digits.length) := by
  induction digits generalizing acc with
  | nil => rfl
  | cons byte digits ih =>
    have hstep : digitsValue acc (byte :: digits) =
      digitsValue (10 * acc + (byte.toNat - 48)) digits := rfl
    rw [hstep] at h ⊢
    have hle := le_digitsValue (10 * acc + (byte.toNat - 48)) digits
    rw [absorb]
    simp only [if_pos (Nat.lt_of_le_of_lt hle h), ih h, List.length_cons]

/-- A byte that continues no number: the text of a whole number ends before it. -/
def IsDelimiter (byte : UInt8) : Prop :=
  isDigit byte = false ∧ byte ≠ 46 ∧ byte ≠ 101 ∧ byte ≠ 69

def IsDelimited (bytes : Bytes) : Prop := ∀ byte ∈ bytes.head?, IsDelimiter byte

theorem isDelimited_nil : IsDelimited [] := by
  intro byte h
  cases h

theorem isDelimited_cons {byte : UInt8} (h : IsDelimiter byte) (rest : Bytes) :
    IsDelimited (byte :: rest) := by
  intro b hb
  cases hb
  exact h

theorem fraction_of_isDelimited {rest : Bytes} (h : IsDelimited rest) :
    fraction rest = .ok (none, rest) := by
  rw [fraction.eq_def]
  split
  · exact absurd rfl (h 46 rfl).2.1
  · rfl

theorem exponent_of_isDelimited {rest : Bytes} (h : IsDelimited rest) :
    exponent rest = .ok (none, rest) := by
  rw [exponent.eq_def]
  split
  · rename_i mark rest
    rw [if_neg]
    exact not_or.mpr (h mark rfl).2.2
  · rfl

theorem takeWhile_isDigit {digits rest : Bytes} (h : ∀ byte ∈ digits, isDigit byte)
    (hrest : IsDelimited rest) :
    (digits ++ rest).takeWhile isDigit = digits ∧ (digits ++ rest).dropWhile isDigit = rest := by
  rw [List.takeWhile_append_of_pos h, List.dropWhile_append_of_pos h]
  cases rest with
  | nil => simp
  | cons byte rest =>
    have hbyte := (hrest byte rfl).1
    simp [hbyte]

/-- The digits of a number do not begin with a zero, unless it is zero. -/
theorem head_toDigits {n : Nat} (hn : 0 < n) {c : Char} {chars : List Char}
    (h : Nat.toDigits 10 n = c :: chars) : c ≠ '0' := by
  induction n using Nat.strongRecOn generalizing chars with
  | ind n ih =>
    by_cases hsmall : n < 10
    · rw [Nat.toDigits_of_lt_base hsmall] at h
      obtain ⟨rfl, -⟩ := List.cons.inj h
      rw [Ne, Nat.digitChar_eq_zero]
      omega
    · rw [Nat.toDigits_of_base_le (by decide) (by omega)] at h
      cases hfront : Nat.toDigits 10 (n / 10) with
      | nil => exact absurd hfront Nat.toDigits_ne_nil
      | cons d front =>
        rw [hfront, List.cons_append] at h
        obtain ⟨rfl, -⟩ := List.cons.inj h
        exact ih (n / 10) (by omega) (by omega) hfront

/-- The digits of a number are all of its whole part. -/
theorem wholePart_toDigits {n : Nat} {c : Char} {chars : List Char}
    (h : Nat.toDigits 10 n = c :: chars) {rest : Bytes} (hrest : IsDelimited rest) :
    wholePart (UInt8.ofNat c.toNat) (ofChars chars ++ rest) =
      .ok (ofChars (c :: chars), rest) := by
  have hdigits : AreDigits (c :: chars) := h ▸ areDigits_toDigits n
  have hc := hdigits c List.mem_cons_self
  obtain ⟨htake, hdrop⟩ := takeWhile_isDigit (isDigit_of_mem_ofChars hdigits.tail) hrest
  rw [wholePart]
  by_cases hn : n = 0
  · rw [hn, Nat.toDigits_zero] at h
    obtain ⟨rfl, rfl⟩ := List.cons.inj h
    have hhead : (rest.head?.map isDigit).getD false = false := by
      cases rest with
      | nil => rfl
      | cons byte rest => exact (hrest byte rfl).1
    simp [hhead, ofChars_digits hdigits]
  · have hzero : UInt8.ofNat c.toNat ≠ 48 := by
      intro heq
      have := congrArg UInt8.toNat heq
      rw [toNat_digit hc] at this
      exact head_toDigits (Nat.pos_of_ne_zero hn) h (Char.toNat_inj.mp this)
    rw [if_neg hzero, if_pos (isDigit_digit hc), htake, hdrop, ofChars_digits hdigits]

def InRange (value : Int) : Prop := -(2 ^ 63) ≤ value ∧ value < 2 ^ 64

/-- A written number, read behind its sign and its first digit. -/
theorem numberToken_toDigits {n : Nat} {negative : Bool} {value : Int}
    (hvalue : numberValue negative (ofChars (Nat.toDigits 10 n)) none none =
      some (.int value)) {c : Char} {chars : List Char} (h : Nat.toDigits 10 n = c :: chars)
    {rest : Bytes} (hrest : IsDelimited rest) :
    numberToken false negative (UInt8.ofNat c.toNat) (ofChars chars ++ rest) =
      .ok (.number (.int value), rest) := by
  have hwhole := wholePart_toDigits h hrest
  rw [h] at hvalue
  simp [numberToken, hwhole, fraction_of_isDelimited hrest, exponent_of_isDelimited hrest, hvalue,
    bind, Except.bind]

theorem absorb_toDigits {n : Nat} (hn : n < 2 ^ 64) :
    absorb 0 (ofChars (Nat.toDigits 10 n)) = (n, (ofChars (Nat.toDigits 10 n)).length) := by
  have hvalue : digitsValue 0 (ofChars (Nat.toDigits 10 n)) = n := by
    rw [digitsValue_ofChars (areDigits_toDigits n), Nat.ofDigitChars_ten_toDigits]
  rw [absorb_eq (by rwa [hvalue]), hvalue]

theorem numberValue_toDigits {n : Nat} (hn : n < 2 ^ 64) :
    numberValue false (ofChars (Nat.toDigits 10 n)) none none = some (.int n) := by
  simp [numberValue, absorb_toDigits hn]

theorem numberValue_neg_toDigits {n : Nat} (hpos : 0 < n) (hn : n ≤ 2 ^ 63) :
    numberValue true (ofChars (Nat.toDigits 10 n)) none none = some (.int (-n)) := by
  have hfits : n < 2 ^ 64 := by omega
  simpa [numberValue, absorb_toDigits hfits, hpos] using hn

end Provenance.Json
