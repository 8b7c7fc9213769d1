import Mathlib.Tactic
import Provenance.Text.Utf8

/-!
Strict reading takes back what a text is written as: the bytes of each character
make one piece, whatever stands behind them. A text that is cut is read as far as no
character is cut.
-/

namespace Provenance

namespace Bytes

def ofChars (chars : List Char) : Bytes := chars.flatMap String.utf8EncodeChar

@[simp] theorem ofChars_nil : ofChars [] = [] := rfl

theorem ofChars_cons (c : Char) (chars : List Char) :
    ofChars (c :: chars) = String.utf8EncodeChar c ++ ofChars chars := rfl

theorem ofChars_append (front back : List Char) :
    ofChars (front ++ back) = ofChars front ++ ofChars back := List.flatMap_append

theorem ofText_eq (text : String) : ofText text = ofChars text.toList := by
  have h : text.toUTF8 = text.toList.utf8Encode := String.utf8Encode_toList.symm
  rw [ofText, h, List.utf8Encode]
  simp [ofChars]

theorem ofText_ofList (chars : List Char) : ofText (String.ofList chars) = ofChars chars := by
  rw [ofText_eq, String.toList_ofList]

theorem length_ofText (text : String) : (ofText text).length = text.utf8ByteSize := rfl

/-! ASCII characters have one byte each, and all bytes of other characters are larger. -/

theorem utf8EncodeChar_of_ascii {c : Char} (h : c.toNat < 0x80) :
    String.utf8EncodeChar c = [UInt8.ofNat c.toNat] := by
  rw [String.utf8EncodeChar.eq_1, if_pos (by have : c.val.toNat = c.toNat := rfl; omega)]
  rfl

theorem ofChars_ascii_cons {c : Char} (h : c.toNat < 0x80) (chars : List Char) :
    ofChars (c :: chars) = UInt8.ofNat c.toNat :: ofChars chars := by
  rw [ofChars_cons, utf8EncodeChar_of_ascii h, List.singleton_append]

theorem ascii_of_mem_encode {c : Char} {byte : UInt8} (hbyte : byte.toNat < 0x80)
    (h : byte ∈ String.utf8EncodeChar c) : c.toNat < 0x80 := by
  by_contra hc
  have hc : ¬ c.val.toNat ≤ 0x7F := fun hle => hc (Nat.lt_succ_of_le hle)
  rw [String.utf8EncodeChar.eq_1, if_neg hc] at h
  generalize c.val.toNat = n at *
  split at h
  · simp only [List.mem_cons, List.not_mem_nil, or_false] at h
    rcases h with rfl | rfl <;> rw [UInt8.toNat_ofNat'] at hbyte <;> omega
  split at h
  · simp only [List.mem_cons, List.not_mem_nil, or_false] at h
    rcases h with rfl | rfl | rfl <;> rw [UInt8.toNat_ofNat'] at hbyte <;> omega
  · simp only [List.mem_cons, List.not_mem_nil, or_false] at h
    rcases h with rfl | rfl | rfl | rfl <;> rw [UInt8.toNat_ofNat'] at hbyte <;> omega

theorem exists_head_encode (c : Char) :
    ∃ first following, String.utf8EncodeChar c = first :: following := by
  refine List.exists_cons_of_length_pos ?_
  rw [String.length_utf8EncodeChar]
  exact c.utf8Size_pos

def letter (byte : UInt8) : Char := Char.ofNat byte.toNat

theorem letter_ofNat {c : Char} (h : c.toNat < 0x80) : letter (UInt8.ofNat c.toNat) = c := by
  rw [letter, UInt8.toNat_ofNat', Nat.mod_eq_of_lt (by omega), Char.ofNat_toNat]

theorem map_letter_ofChars {chars : List Char} (h : ∀ c ∈ chars, c.toNat < 0x80) :
    (ofChars chars).map letter = chars := by
  induction chars with
  | nil => rfl
  | cons c chars ih =>
    obtain ⟨hc, hchars⟩ := List.forall_mem_cons.1 h
    rw [ofChars_ascii_cons hc, List.map_cons, letter_ofNat hc, ih hchars]

theorem ascii_of_ofChars {chars : List Char} (h : ∀ byte ∈ ofChars chars, byte.toNat < 0x80) :
    ∀ c ∈ chars, c.toNat < 0x80 := by
  intro c hc
  obtain ⟨first, following, hencode⟩ := exists_head_encode c
  have hfirst : first ∈ String.utf8EncodeChar c := hencode ▸ List.mem_cons_self
  exact ascii_of_mem_encode (h first (List.mem_flatMap.2 ⟨c, hc, hfirst⟩)) hfirst

/-- A text whose first byte is that of an ASCII character begins with this character. -/
theorem exists_of_ofChars_eq_cons {byte : UInt8} (hbyte : byte.toNat < 0x80) {chars : List Char}
    {rest : Bytes} (h : ofChars chars = byte :: rest) :
    ∃ behind, chars = letter byte :: behind ∧ rest = ofChars behind := by
  cases chars with
  | nil => cases h
  | cons c chars =>
    obtain ⟨first, following, hencode⟩ := exists_head_encode c
    have hfirst : first = byte := by
      rw [ofChars_cons, hencode] at h
      exact (List.cons.inj h).1
    have hmem : byte ∈ String.utf8EncodeChar c := by
      rw [hencode, hfirst]
      exact List.mem_cons_self
    have hc := ascii_of_mem_encode hbyte hmem
    rw [ofChars_ascii_cons hc] at h
    obtain ⟨rfl, rfl⟩ := List.cons.inj h
    exact ⟨chars, by rw [letter_ofNat hc], rfl⟩

end Bytes

namespace Utf8

theorem tails_zero (low high : Nat) (bytes : Bytes) : tails 0 low high bytes = [] := by
  cases bytes <;> rfl

theorem tails_succ {count low high : Nat} {byte : UInt8} {rest : Bytes}
    (h : low ≤ byte.toNat ∧ byte.toNat ≤ high) :
    tails (count + 1) low high (byte :: rest) = byte :: tails count 0x80 0xBF rest := by
  rw [tails, if_pos h]

/-- A first byte with all its continuation bytes is one piece. -/
theorem pieces_lead {first : UInt8} (following : Bytes) {rest : Bytes} {count low high : Nat}
    (hfirst : 0x80 ≤ first.toNat) (hlead : lead? first = some (count, low, high))
    (htails : tails count low high (following ++ rest) = following)
    (hlength : following.length = count) :
    pieces (first :: (following ++ rest)) =
      .ok (character first count following) :: pieces rest := by
  rw [pieces, if_neg (by omega), hlead]
  simp only [htails, hlength, if_true]
  rw [← hlength, List.drop_left]

/-- A code point and the number that its continuation bytes make of it. -/
theorem character_one {n : Nat} (h : n < 0x800) :
    character (UInt8.ofNat (n / 64 % 32 + 192)) 1 [UInt8.ofNat (n % 64 + 128)] = Char.ofNat n := by
  simp only [character, List.foldl_cons, List.foldl_nil, UInt8.toNat_ofNat']
  congr 1
  omega

theorem character_two {n : Nat} (h : n < 0x10000) :
    character (UInt8.ofNat (n / 4096 % 16 + 224)) 2
      [UInt8.ofNat (n / 64 % 64 + 128), UInt8.ofNat (n % 64 + 128)] = Char.ofNat n := by
  simp only [character, List.foldl_cons, List.foldl_nil, UInt8.toNat_ofNat']
  congr 1
  omega

theorem character_three {n : Nat} (h : n < 0x110000) :
    character (UInt8.ofNat (n / 262144 % 8 + 240)) 3
      [UInt8.ofNat (n / 4096 % 64 + 128), UInt8.ofNat (n / 64 % 64 + 128),
        UInt8.ofNat (n % 64 + 128)] = Char.ofNat n := by
  simp only [character, List.foldl_cons, List.foldl_nil, UInt8.toNat_ofNat']
  congr 1
  omega

theorem pieces_one {n : Nat} (h : n < 0x80) (rest : Bytes) :
    pieces (UInt8.ofNat n :: rest) = .ok (Char.ofNat n) :: pieces rest := by
  have hn : (UInt8.ofNat n).toNat = n := by rw [UInt8.toNat_ofNat']; omega
  rw [pieces, hn, if_pos h]

theorem pieces_two {n : Nat} (hlow : 0x80 ≤ n) (hhigh : n < 0x800) (rest : Bytes) :
    pieces (UInt8.ofNat (n / 64 % 32 + 192) :: UInt8.ofNat (n % 64 + 128) :: rest) =
      .ok (Char.ofNat n) :: pieces rest := by
  have hlead : lead? (UInt8.ofNat (n / 64 % 32 + 192)) = some (1, 0x80, 0xBF) := by
    simp only [lead?, UInt8.toNat_ofNat']
    rw [if_pos (by omega)]
  rw [← character_one hhigh]
  refine pieces_lead [_] ?_ hlead ?_ rfl
  · rw [UInt8.toNat_ofNat']; omega
  · rw [List.singleton_append, tails_succ (by rw [UInt8.toNat_ofNat']; omega), tails_zero]

theorem pieces_three {n : Nat} (hlow : 0x800 ≤ n) (hhigh : n < 0x10000)
    (hvalid : n < 0xD800 ∨ 0xDFFF < n) (rest : Bytes) :
    pieces (UInt8.ofNat (n / 4096 % 16 + 224) :: UInt8.ofNat (n / 64 % 64 + 128) ::
      UInt8.ofNat (n % 64 + 128) :: rest) = .ok (Char.ofNat n) :: pieces rest := by
  obtain ⟨low, high, hlead, hnext⟩ : ∃ low high,
      lead? (UInt8.ofNat (n / 4096 % 16 + 224)) = some (2, low, high) ∧
        low ≤ n / 64 % 64 + 128 ∧ n / 64 % 64 + 128 ≤ high := by
    simp only [lead?, UInt8.toNat_ofNat']
    rw [if_neg (by omega)]
    by_cases hfirst : n < 0x1000
    · exact ⟨0xA0, 0xBF, by rw [if_pos (by omega)], by omega, by omega⟩
    · rw [if_neg (by omega)]
      by_cases hsurrogates : 0xD000 ≤ n ∧ n < 0xE000
      · exact ⟨0x80, 0x9F, by rw [if_pos (by omega)], by omega, by omega⟩
      · exact ⟨0x80, 0xBF, by rw [if_neg (by omega), if_pos (by omega)], by omega, by omega⟩
  rw [← character_two hhigh]
  refine pieces_lead [_, _] ?_ hlead ?_ rfl
  · rw [UInt8.toNat_ofNat']; omega
  · rw [List.cons_append, List.singleton_append, tails_succ (by rw [UInt8.toNat_ofNat']; omega),
      tails_succ (by rw [UInt8.toNat_ofNat']; omega), tails_zero]

theorem pieces_four {n : Nat} (hlow : 0x10000 ≤ n) (hhigh : n < 0x110000) (rest : Bytes) :
    pieces (UInt8.ofNat (n / 262144 % 8 + 240) :: UInt8.ofNat (n / 4096 % 64 + 128) ::
      UInt8.ofNat (n / 64 % 64 + 128) :: UInt8.ofNat (n % 64 + 128) :: rest) =
      .ok (Char.ofNat n) :: pieces rest := by
  obtain ⟨low, high, hlead, hnext⟩ : ∃ low high,
      lead? (UInt8.ofNat (n / 262144 % 8 + 240)) = some (3, low, high) ∧
        low ≤ n / 4096 % 64 + 128 ∧ n / 4096 % 64 + 128 ≤ high := by
    simp only [lead?, UInt8.toNat_ofNat']
    iterate 4 rw [if_neg (by omega)]
    by_cases hfirst : n < 0x40000
    · exact ⟨0x90, 0xBF, by rw [if_pos (by omega)], by omega, by omega⟩
    · rw [if_neg (by omega)]
      by_cases hlast : n < 0x100000
      · exact ⟨0x80, 0xBF, by rw [if_pos (by omega)], by omega, by omega⟩
      · exact ⟨0x80, 0x8F, by rw [if_neg (by omega), if_pos (by omega)], by omega, by omega⟩
  rw [← character_three hhigh]
  refine pieces_lead [_, _, _] ?_ hlead ?_ rfl
  · rw [UInt8.toNat_ofNat']; omega
  · rw [List.cons_append, List.cons_append, List.singleton_append,
      tails_succ (by rw [UInt8.toNat_ofNat']; omega),
      tails_succ (by rw [UInt8.toNat_ofNat']; omega),
      tails_succ (by rw [UInt8.toNat_ofNat']; omega), tails_zero]

/-- The bytes of a character are one piece. -/
theorem pieces_encode (c : Char) (rest : Bytes) :
    pieces (String.utf8EncodeChar c ++ rest) = .ok c :: pieces rest := by
  have hvalid : c.val.toNat < 0xD800 ∨ 0xDFFF < c.val.toNat ∧ c.val.toNat < 0x110000 := c.valid
  have hc : Char.ofNat c.val.toNat = c := Char.ofNat_toNat c
  rw [String.utf8EncodeChar.eq_1]
  generalize c.val.toNat = n at hvalid hc
  subst hc
  split
  · exact pieces_one (by omega) rest
  split
  · exact pieces_two (by omega) (by omega) rest
  split
  · exact pieces_three (by omega) (by omega) (by omega) rest
  · exact pieces_four (by omega) (by omega) rest

theorem pieces_ofChars (chars : List Char) : pieces (Bytes.ofChars chars) = chars.map .ok := by
  induction chars with
  | nil => simp [pieces]
  | cons c chars ih => rw [Bytes.ofChars_cons, pieces_encode, ih, List.map_cons]

/-- Reading the bytes of a text gives the text. -/
theorem decode_ofText (text : String) : decode? (Bytes.ofText text) = some text := by
  have h : (text.toList.map (Except.ok : Char → Except Bytes Char)).mapM Except.toOption =
      some text.toList := by
    induction text.toList with
    | nil => rfl
    | cons c chars ih => simp [ih, Except.toOption]
  rw [decode?, Bytes.ofText_eq, pieces_ofChars, h, Option.map_some, String.ofList_toList]

/-! Texts that are cut -/

theorem tails_length_le (count low high : Nat) (bytes : Bytes) :
    (tails count low high bytes).length ≤ bytes.length := by
  induction bytes generalizing count low high with
  | nil => simp [tails]
  | cons byte bytes ih =>
    cases count with
    | zero => exact Nat.zero_le _
    | succ count =>
      rw [tails]
      split
      · exact Nat.succ_le_succ (ih count _ _)
      · exact Nat.zero_le _

theorem pieces_eq_nil_iff {bytes : Bytes} : pieces bytes = [] ↔ bytes = [] := by
  cases bytes with
  | nil => simp [pieces]
  | cons first rest =>
    rw [pieces]
    split
    · simp
    · split <;> simp

/-- The first byte of a character says how many bytes follow, if any do. -/
theorem exists_lead {c : Char} {first : UInt8} {following : Bytes}
    (h : String.utf8EncodeChar c = first :: following) (hfollowing : following ≠ []) :
    0x80 ≤ first.toNat ∧ ∃ low high, lead? first = some (following.length, low, high) := by
  have hpieces := pieces_encode c []
  rw [List.append_nil, h, pieces_eq_nil_iff.2 rfl, pieces] at hpieces
  split at hpieces
  · exact absurd (pieces_eq_nil_iff.1 (List.cons.inj hpieces).2) hfollowing
  rename_i hfirst
  refine ⟨Nat.le_of_not_lt hfirst, ?_⟩
  split at hpieces
  · cases (List.cons.inj hpieces).1
  rename_i count low high hlead
  obtain ⟨hpiece, hrest⟩ := List.cons.inj hpieces
  split at hpiece
  · rename_i hcount
    have hall : following.length ≤ (tails count low high following).length :=
      List.drop_eq_nil_iff.1 (pieces_eq_nil_iff.1 hrest)
    refine ⟨low, high, ?_⟩
    rw [hlead, ← hcount, Nat.le_antisymm (tails_length_le count low high following) hall]
  · cases hpiece

/-- A character that is cut is none. -/
theorem decode?_take_encode {c : Char} {n : Nat} (hpos : 0 < n)
    (hlt : n < (String.utf8EncodeChar c).length) :
    decode? ((String.utf8EncodeChar c).take n) = none := by
  obtain ⟨n, rfl⟩ := Nat.exists_eq_succ_of_ne_zero hpos.ne'
  cases h : String.utf8EncodeChar c with
  | nil => simp [h] at hlt
  | cons first following =>
    rw [h, List.length_cons] at hlt
    have hcut : (following.take n).length < following.length := by
      rw [List.length_take]
      omega
    obtain ⟨hfirst, low, high, hlead⟩ := exists_lead h (List.ne_nil_of_length_pos (by omega))
    have htails := tails_length_le following.length low high (following.take n)
    rw [List.take_succ_cons, decode?, pieces, if_neg (by omega), hlead]
    simp only [if_neg (show (tails following.length low high (following.take n)).length ≠
      following.length by omega)]
    rfl

theorem decode?_encode_append (c : Char) (bytes : Bytes) :
    (decode? (String.utf8EncodeChar c ++ bytes)).isSome = (decode? bytes).isSome := by
  rw [decode?, decode?, pieces_encode, List.mapM_cons]
  cases (pieces bytes).mapM Except.toOption <;> rfl

theorem isSome_decode?_take_ofChars (chars : List Char) {n : Nat}
    (hn : n ≤ (Bytes.ofChars chars).length) :
    (decode? ((Bytes.ofChars chars).take n)).isSome ↔
      ∃ i, n = (Bytes.ofChars (chars.take i)).length := by
  induction chars generalizing n with
  | nil =>
    obtain rfl : n = 0 := by simpa using hn
    simp [decode?, pieces]
  | cons c chars ih =>
    rw [Bytes.ofChars_cons] at hn ⊢
    rw [List.length_append] at hn
    by_cases hzero : n = 0
    · subst hzero
      simp only [List.take_zero, decode?, pieces]
      exact iff_of_true rfl ⟨0, rfl⟩
    by_cases hle : (String.utf8EncodeChar c).length ≤ n
    · obtain ⟨m, rfl⟩ := Nat.exists_eq_add_of_le hle
      rw [List.take_length_add_append, decode?_encode_append, ih (by omega)]
      constructor
      · rintro ⟨i, rfl⟩
        exact ⟨i + 1, by rw [List.take_succ_cons, Bytes.ofChars_cons, List.length_append]⟩
      · rintro ⟨i, hi⟩
        cases i with
        | zero => exact absurd hi hzero
        | succ i =>
          rw [List.take_succ_cons, Bytes.ofChars_cons, List.length_append] at hi
          exact ⟨i, by omega⟩
    · rw [List.take_append_of_le_length (by omega),
        decode?_take_encode (Nat.pos_of_ne_zero hzero) (by omega)]
      refine iff_of_false (by simp) ?_
      rintro ⟨i, hi⟩
      cases i with
      | zero => exact hzero hi
      | succ i =>
        rw [List.take_succ_cons, Bytes.ofChars_cons, List.length_append] at hi
        omega

/-- What is cut off a text is a text where no character is cut. -/
theorem isSome_decode?_take_iff {text : String} {n : Nat} (hn : n ≤ text.utf8ByteSize) :
    (decode? ((Bytes.ofText text).take n)).isSome ↔ (⟨n⟩ : String.Pos.Raw).IsValid text := by
  have hsize (chars : List Char) :
      (Bytes.ofChars chars).length = (String.ofList chars).utf8ByteSize := by
    rw [← Bytes.ofText_ofList, Bytes.length_ofText]
  rw [← Bytes.length_ofText, Bytes.ofText_eq] at hn
  rw [Bytes.ofText_eq, isSome_decode?_take_ofChars _ hn]
  conv_rhs => rw [← String.ofList_toList (s := text), String.Pos.Raw.isValid_ofList]
  simp only [hsize]

end Utf8

end Provenance
