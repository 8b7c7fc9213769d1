import Provenance.Proofs.Success
import Provenance.Proofs.Text.Numerals
import Provenance.Proofs.Text.Utf8

/-!
Hexadecimal text in both directions. What is written is read back in either case and with
either marker, and a text is read exactly if it is the writing of the bytes but for the
case of its digits and the marker. Any other text is refused for its length or for its
first byte that is no digit.
-/

namespace Provenance.Ascii

theorem ascii_of_isHexDigit {c : Char} (h : isHexDigit c = true) : c.toNat < 0x80 := by
  have hbound {low high : Char} (hhigh : high.toNat < 0x80) (h : (low ≤ c && c ≤ high) = true) :
      c.toNat < 0x80 :=
    Nat.lt_of_le_of_lt (of_decide_eq_true (Bool.and_eq_true_iff.1 h).2) hhigh
  rw [isHexDigit, isDigit, Bool.or_eq_true, Bool.or_eq_true] at h
  obtain (h | h) | h := h
  · exact hbound (by decide) h
  · exact hbound (by decide) h
  · exact hbound (by decide) h

/-- Small letters do not stand for other digits than capital ones. -/
theorem isHexDigit_lower (c : Char) : isHexDigit (lower c) = isHexDigit c := by
  have hall : ∀ n < 91, isHexDigit (lower (Char.ofNat n)) = isHexDigit (Char.ofNat n) := by
    decide +kernel
  by_cases hcapital : ('A' ≤ c && c ≤ 'Z') = true
  · have hbound : c.toNat ≤ 90 := of_decide_eq_true (Bool.and_eq_true_iff.1 hcapital).2
    have hc := hall c.toNat (Nat.lt_succ_of_le hbound)
    rwa [Char.ofNat_toNat] at hc
  · rw [lower, if_neg hcapital]

end Provenance.Ascii

namespace Provenance.Hex

open Bytes (ofChars ofText letter)

def isDigit (byte : UInt8) : Bool := Ascii.isHexDigit (letter byte)

theorem value?_cases (byte : UInt8) :
    (isDigit byte = false ∧ value? byte = none) ∨
      (isDigit byte = true ∧ ∃ value < 16, value? byte = some value ∧
        digit value = Ascii.lower (letter byte)) := by
  have hall : ∀ n < 256,
      (isDigit (UInt8.ofNat n) = false ∧ value? (UInt8.ofNat n) = none) ∨
        (isDigit (UInt8.ofNat n) = true ∧ ∃ value < 16, value? (UInt8.ofNat n) = some value ∧
          digit value = Ascii.lower (letter (UInt8.ofNat n))) := by decide +kernel
  have hbyte := hall byte.toNat byte.toNat_lt
  rwa [UInt8.ofNat_toNat] at hbyte

theorem pair_ofNat {high low : Nat} (hhigh : high < 16) (hlow : low < 16) :
    pair (UInt8.ofNat (16 * high + low)) = [digit high, digit low] := by
  have hbyte : (UInt8.ofNat (16 * high + low)).toNat = 16 * high + low := by
    rw [UInt8.toNat_ofNat']
    omega
  rw [pair, hbyte]
  congr <;> omega

theorem isHexDigit_of_mem_pair {byte : UInt8} {c : Char} (h : c ∈ pair byte) :
    Ascii.isHexDigit c = true := by
  have hall : ∀ value < 16, Ascii.isHexDigit (digit value) = true := by decide
  have hbyte := byte.toNat_lt
  rcases List.mem_cons.1 h with rfl | h
  · exact hall _ (by omega)
  · rw [List.mem_singleton.1 h]
    exact hall _ (by omega)

theorem value?_eq_none_iff {byte : UInt8} : value? byte = none ↔ isDigit byte = false := by
  obtain ⟨hdigit, hvalue⟩ | ⟨hdigit, value, -, hvalue, -⟩ := value?_cases byte
  · exact iff_of_true hvalue hdigit
  · simp [hdigit, hvalue]

theorem digit_of_value? {byte : UInt8} {value : Nat} (h : value? byte = some value) :
    isDigit byte = true ∧ value < 16 ∧ digit value = Ascii.lower (letter byte) := by
  obtain ⟨-, hvalue⟩ | ⟨hdigit, value', hlt, hvalue, hletter⟩ := value?_cases byte
  · simp [hvalue] at h
  · obtain rfl := Option.some.inj (hvalue.symm.trans h)
    exact ⟨hdigit, hlt, hletter⟩

/-- Digits are read if each byte has two, and they are then the writing of the bytes but for
their case. By induction on the pairs. -/
theorem decodePairs_eq_ok_iff {position : Nat} {text bytes : Bytes} :
    decodePairs position text = .ok bytes ↔
      text.length % 2 = 0 ∧ (∀ byte ∈ text, isDigit byte = true) ∧
        text.map (Ascii.lower ∘ letter) = bytes.flatMap pair := by
  induction position, text using decodePairs.induct generalizing bytes with
  | case1 position => cases bytes <;> simp [decodePairs, pair]
  | case2 position byte => simp [decodePairs]
  | case3 position high low rest hhigh =>
    simp [decodePairs, hhigh, value?_eq_none_iff.1 hhigh]
  | case4 position high low rest h hlow hhigh =>
    simp [decodePairs, hhigh, hlow, value?_eq_none_iff.1 hlow]
  | case5 position high low rest h l hlow hhigh ih =>
    obtain ⟨hhighDigit, hh, hhighLetter⟩ := digit_of_value? hhigh
    obtain ⟨hlowDigit, hl, hlowLetter⟩ := digit_of_value? hlow
    have hpair : pair (UInt8.ofNat (16 * h + l)) =
        [Ascii.lower (letter high), Ascii.lower (letter low)] := by
      rw [pair_ofNat hh hl, hhighLetter, hlowLetter]
    have hlength : (high :: low :: rest).length % 2 = 0 ↔ rest.length % 2 = 0 := by
      simp only [List.length_cons]
      omega
    have hdecode : decodePairs position (high :: low :: rest) =
        (decodePairs (position + 2) rest).map (UInt8.ofNat (16 * h + l) :: ·) := by
      rw [decodePairs, hhigh, hlow]
    rw [hdecode, hlength, List.forall_mem_cons, List.forall_mem_cons, and_iff_right hhighDigit,
      and_iff_right hlowDigit]
    constructor
    · intro hok
      obtain ⟨tail, htail, rfl⟩ := exists_of_map_eq_ok hok
      obtain ⟨heven, hdigits, hwritten⟩ := ih.1 htail
      refine ⟨heven, hdigits, ?_⟩
      rw [List.flatMap_cons, ← hwritten, hpair]
      rfl
    · rintro ⟨heven, hdigits, hwritten⟩
      cases bytes with
      | nil => cases hwritten
      | cons byte tail =>
        rw [List.flatMap_cons] at hwritten
        change [_, _] ++ rest.map (Ascii.lower ∘ letter) = _ at hwritten
        obtain ⟨hfirst, hrest⟩ := List.append_inj hwritten rfl
        rw [ih.2 ⟨heven, hdigits, hrest⟩, pair_injective (hfirst.symm.trans hpair.symm)]
        rfl

/-- Digits in pairs are refused only for the first byte that is none. -/
theorem decodePairs_eq_error_iff {position : Nat} {text : Bytes} (heven : text.length % 2 = 0)
    {fault : Fault} : decodePairs position text = .error fault ↔
      ∃ byte, text.find? (!isDigit ·) = some byte ∧
        fault = .badByte byte (position + text.findIdx (!isDigit ·)) := by
  induction position, text using decodePairs.induct with
  | case1 position => simp [decodePairs]
  | case2 position byte => simp at heven
  | case3 position high low rest hhigh =>
    rw [decodePairs, hhigh]
    simp [value?_eq_none_iff.1 hhigh, List.findIdx_cons, eq_comm]
  | case4 position high low rest h hlow hhigh =>
    rw [decodePairs, hhigh, hlow]
    simp [value?_eq_none_iff.1 hlow, List.findIdx_cons, (digit_of_value? hhigh).1, eq_comm]
  | case5 position high low rest h l hlow hhigh ih =>
    have heven : rest.length % 2 = 0 := by
      simp only [List.length_cons] at heven
      omega
    have hfind : (high :: low :: rest).find? (!isDigit ·) = rest.find? (!isDigit ·) := by
      simp [(digit_of_value? hhigh).1, (digit_of_value? hlow).1]
    have hindex : (high :: low :: rest).findIdx (!isDigit ·) = rest.findIdx (!isDigit ·) + 2 := by
      simp [List.findIdx_cons, (digit_of_value? hhigh).1, (digit_of_value? hlow).1]
    have hdecode : decodePairs position (high :: low :: rest) =
        (decodePairs (position + 2) rest).map (UInt8.ofNat (16 * h + l) :: ·) := by
      rw [decodePairs, hhigh, hlow]
    have hshift : position + (rest.findIdx (!isDigit ·) + 2) =
        position + 2 + rest.findIdx (!isDigit ·) := by omega
    rw [hdecode, map_eq_error_iff, ih heven, hfind, hindex, hshift]

def behindMarker : List Char → List Char
  | '0' :: 'x' :: rest => rest
  | '0' :: 'X' :: rest => rest
  | chars => chars

/-- Neither marker is made of digits. -/
theorem behindMarker_of_digits {chars : List Char} (h : ∀ c ∈ chars, Ascii.isHexDigit c = true) :
    behindMarker chars = chars := by
  fun_cases behindMarker chars with
  | case1 rest => exact absurd (h 'x' (by simp)) (by decide)
  | case2 rest => exact absurd (h 'X' (by simp)) (by decide)
  | case3 chars hsmall hcapital => rfl

/-- The marker is the same for the bytes of a text as for its characters, since a byte of
an ASCII character is no part of another one. -/
theorem unmarked_ofChars (chars : List Char) :
    unmarked (ofChars chars) = ofChars (behindMarker chars) := by
  fun_cases behindMarker chars with
  | case1 rest => rfl
  | case2 rest => rfl
  | case3 chars hsmall hcapital =>
    have hmarker {second : UInt8} {rest : Bytes} (hsecond : second.toNat < 0x80)
        (h : ofChars chars = 48 :: second :: rest) :
        ∃ behind, chars = '0' :: letter second :: behind := by
      obtain ⟨behind, hchars, hrest⟩ := Bytes.exists_of_ofChars_eq_cons (by decide) h
      obtain ⟨behind, rfl, -⟩ := Bytes.exists_of_ofChars_eq_cons hsecond hrest.symm
      exact ⟨behind, hchars⟩
    rw [unmarked.eq_3]
    · intro rest h
      obtain ⟨behind, hchars⟩ := hmarker (by decide) h
      exact hsmall behind hchars
    · intro rest h
      obtain ⟨behind, hchars⟩ := hmarker (by decide) h
      exact hcapital behind hchars

theorem decode_eq (text : String) : decode text =
    if (ofChars (behindMarker text.toList)).length % 2 = 0 then
      decodePairs 0 (ofChars (behindMarker text.toList))
    else .error .oddLength := by
  rw [decode, Bytes.ofText_eq, unmarked_ofChars]

theorem ascii_of_isDigit {byte : UInt8} (h : isDigit byte = true) : byte.toNat < 0x80 := by
  have hall : ∀ n < 256, isDigit (UInt8.ofNat n) = true → n < 0x80 := by decide +kernel
  exact hall byte.toNat byte.toNat_lt (by rwa [UInt8.ofNat_toNat])

/-- Digits are ASCII, so as characters they are as many as their bytes. -/
theorem map_letter_of_isDigit {chars : List Char}
    (h : ∀ byte ∈ ofChars chars, isDigit byte = true) : (ofChars chars).map letter = chars :=
  Bytes.map_letter_ofChars
    (Bytes.ascii_of_ofChars fun byte hbyte => ascii_of_isDigit (h byte hbyte))

/-- The bytes of a text are digits just if its characters are. -/
theorem forall_isDigit_ofChars {chars : List Char} :
    (∀ byte ∈ ofChars chars, isDigit byte = true) ↔
      ∀ c ∈ chars, Ascii.isHexDigit c = true := by
  constructor
  · intro h
    rw [← map_letter_of_isDigit h]
    exact List.forall_mem_map.2 h
  · intro h
    have hletters := Bytes.map_letter_ofChars fun c hc => Ascii.ascii_of_isHexDigit (h c hc)
    rw [← hletters] at h
    exact List.forall_mem_map.1 h

theorem decode_eq_ok_iff {text : String} {bytes : Bytes} :
    decode text = .ok bytes ↔
      (behindMarker text.toList).length % 2 = 0 ∧
        (∀ c ∈ behindMarker text.toList, Ascii.isHexDigit c = true) ∧
        (behindMarker text.toList).map Ascii.lower = bytes.flatMap pair := by
  rw [decode_eq]
  generalize behindMarker text.toList = digits
  rw [← forall_isDigit_ofChars]
  constructor
  · intro h
    split at h
    · obtain ⟨heven, hdigits, hwritten⟩ := decodePairs_eq_ok_iff.1 h
      have hletters := map_letter_of_isDigit hdigits
      rw [← List.map_map, hletters] at hwritten
      rw [← List.length_map letter, hletters] at heven
      exact ⟨heven, hdigits, hwritten⟩
    · cases h
  · rintro ⟨heven, hdigits, hwritten⟩
    have hletters := map_letter_of_isDigit hdigits
    rw [← hletters, List.map_map] at hwritten
    rw [← hletters, List.length_map] at heven
    rw [if_pos heven]
    exact decodePairs_eq_ok_iff.2 ⟨heven, hdigits, hwritten⟩

theorem decode_eq_error_iff {text : String} {fault : Fault} :
    decode text = .error fault ↔
      ((ofChars (behindMarker text.toList)).length % 2 = 1 ∧ fault = .oddLength) ∨
        ((ofChars (behindMarker text.toList)).length % 2 = 0 ∧
          ∃ byte, (ofChars (behindMarker text.toList)).find? (!isDigit ·) = some byte ∧
            fault = .badByte byte
              ((ofChars (behindMarker text.toList)).findIdx (!isDigit ·))) := by
  rw [decode_eq]
  generalize ofChars (behindMarker text.toList) = rest
  split
  case isTrue heven =>
    rw [decodePairs_eq_error_iff heven, Nat.zero_add]
    simp [heven]
  case isFalse hodd =>
    have hodd : rest.length % 2 = 1 := Nat.mod_two_ne_zero.1 hodd
    simp [hodd, eq_comm]

theorem marked_eq_iff {bytes : Bytes} {digits : List Char} :
    marked bytes = "0x" ++ String.ofList digits ↔ digits = bytes.flatMap pair := by
  rw [marked, encode, String.append_right_inj, String.ofList_inj, eq_comm]

theorem exists_decode_iff {text : String} :
    (∃ bytes, decode text = .ok bytes) ↔
      (behindMarker text.toList).length % 2 = 0 ∧
        ∀ c ∈ behindMarker text.toList, Ascii.isHexDigit c = true := by
  constructor
  · rintro ⟨bytes, h⟩
    obtain ⟨heven, hdigits, -⟩ := decode_eq_ok_iff.1 h
    exact ⟨heven, hdigits⟩
  · rintro ⟨heven, hdigits⟩
    cases h : decode text with
    | ok bytes => exact ⟨bytes, rfl⟩
    | error fault =>
      have hbytes := forall_isDigit_ofChars.2 hdigits
      obtain ⟨hodd, -⟩ | ⟨-, byte, hfind, -⟩ := decode_eq_error_iff.1 h
      · rw [← map_letter_of_isDigit hbytes, List.length_map, hodd] at heven
        cases heven
      · have hno := List.find?_some hfind
        simp [hbytes byte (List.mem_of_find?_eq_some hfind)] at hno

theorem length_flatMap_pair (bytes : Bytes) : (bytes.flatMap pair).length = 2 * bytes.length := by
  induction bytes with
  | nil => rfl
  | cons byte bytes ih =>
    rw [List.flatMap_cons, List.length_append, ih, List.length_cons, Nat.mul_succ, Nat.add_comm]
    rfl

/-- Digits in any case behind any marker, or none, are the bytes they were written for. -/
theorem decode_of_lower {bytes : Bytes} {marker : String} {digits : List Char}
    (hmarker : marker ∈ ["", "0x", "0X"])
    (hdigits : digits.map Ascii.lower = bytes.flatMap pair) :
    decode (marker ++ String.ofList digits) = .ok bytes := by
  have hall : ∀ c ∈ digits, Ascii.isHexDigit c = true := by
    intro c hc
    have hlower : Ascii.lower c ∈ bytes.flatMap pair := hdigits ▸ List.mem_map_of_mem hc
    obtain ⟨byte, -, hpair⟩ := List.mem_flatMap.1 hlower
    rw [← Ascii.isHexDigit_lower]
    exact isHexDigit_of_mem_pair hpair
  have hlength : digits.length = 2 * bytes.length := by
    rw [← List.length_map Ascii.lower, hdigits, length_flatMap_pair]
  have hbehind : behindMarker (marker ++ String.ofList digits).toList = digits := by
    rw [String.toList_append, String.toList_ofList]
    simp only [List.mem_cons, List.not_mem_nil, or_false] at hmarker
    obtain rfl | rfl | rfl := hmarker
    · exact behindMarker_of_digits hall
    · rfl
    · rfl
  rw [decode_eq_ok_iff, hbehind, hlength]
  exact ⟨Nat.mul_mod_right _ _, hall, hdigits⟩

theorem map_lower_flatMap_pair (bytes : Bytes) :
    (bytes.flatMap pair).map Ascii.lower = bytes.flatMap pair := by
  have hall : ∀ value < 16, Ascii.lower (digit value) = digit value := by decide
  rw [List.map_flatMap]
  refine congrArg (List.flatMap · bytes) (funext fun byte => ?_)
  have hbyte := byte.toNat_lt
  rw [pair, List.map_cons, List.map_singleton, hall _ (by omega), hall _ (by omega)]

/-- Writing and reading undo each other. What is written for bytes is read back, with or
without a marker and in any mixture of cases, and a text is read only as the bytes whose
writing it is but for marker and case. Any other text is refused, for its length if that
is odd, and else for its first byte that is no digit. -/
theorem decode_inverts_marked :
    (∀ bytes,
      decode (marked bytes) = .ok bytes ∧ decode (encode bytes) = .ok bytes ∧
      ∀ marker ∈ ["", "0x", "0X"], ∀ digits, digits.map Ascii.lower = (encode bytes).toList →
        decode (marker ++ String.ofList digits) = .ok bytes) ∧
    ∀ text : String,
      let digits := behindMarker text.toList
      let rest := ofChars digits
      ((∃ bytes, decode text = .ok bytes) ↔
        digits.length % 2 = 0 ∧ ∀ c ∈ digits, Ascii.isHexDigit c = true) ∧
      (∀ bytes, decode text = .ok bytes ↔
        digits.length % 2 = 0 ∧ (∀ c ∈ digits, Ascii.isHexDigit c = true) ∧
          marked bytes = "0x" ++ String.ofList (digits.map Ascii.lower)) ∧
      (decode text = .error .oddLength ↔ rest.length % 2 = 1) ∧
      ∀ byte position, decode text = .error (.badByte byte position) ↔
        rest.length % 2 = 0 ∧ rest.find? (!isDigit ·) = some byte ∧
          rest.findIdx (!isDigit ·) = position := by
  refine ⟨fun bytes => ⟨?_, ?_, ?_⟩, fun text => ⟨exists_decode_iff, ?_, ?_, ?_⟩⟩
  · exact decode_of_lower (by decide : "0x" ∈ _) (map_lower_flatMap_pair bytes)
  · rw [← String.empty_append (s := encode bytes)]
    exact decode_of_lower (by decide) (map_lower_flatMap_pair bytes)
  · intro marker hmarker digits hdigits
    rw [encode, String.toList_ofList] at hdigits
    exact decode_of_lower hmarker hdigits
  · intro bytes
    rw [marked_eq_iff]
    exact decode_eq_ok_iff
  · rw [decode_eq_error_iff]
    simp
  · intro byte position
    rw [decode_eq_error_iff]
    simp [eq_comm]

theorem decode_mixed_case :
    "0X" ∈ ["", "0x", "0X"] ∧ ['A', 'b'].map Ascii.lower = (encode [0xab]).toList ∧
      decode ("0X" ++ String.ofList ['A', 'b']) = .ok [0xab] := by
  have hdigits : ['A', 'b'].map Ascii.lower = (encode [0xab]).toList := by
    rw [encode, String.toList_ofList]
    decide
  exact ⟨by decide, hdigits,
    (decode_inverts_marked.1 [0xab]).2.2 "0X" (by decide) ['A', 'b'] hdigits⟩

/-- Only one marker is taken off. -/
example : decode "0x0x00" = .error (.badByte 120 1) := by decide

end Provenance.Hex
