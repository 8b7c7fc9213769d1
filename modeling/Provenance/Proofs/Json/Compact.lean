import Provenance.Json.Reader
import Provenance.Proofs.Json.Leaves

/-!
A compact text, read again. The reader's stack stands for the arrays and objects
that the writer has begun; behind a value it goes on as if the value had been put
there. So a value comes back from its text, unless it holds a number that is no
whole one or is nested too deeply.
-/

namespace Provenance.Json

open Bytes (ofChars ofText ofChars_ascii_cons)

mutual

def depth : Json → Nat
  | .array items => depthOfItems items + 1
  | .object members => depthOfMembers members + 1
  | _ => 0

def depthOfItems : List Json → Nat
  | [] => 0
  | item :: rest => max item.depth (depthOfItems rest)

def depthOfMembers : List (String × Json) → Nat
  | [] => 0
  | (_, value) :: rest => max value.depth (depthOfMembers rest)

end

mutual

def IsWhole : Json → Prop
  | .number (.int value) => InRange value
  | .number (.float _) => False
  | .array items => AreWhole items
  | .object members => AreWholeMembers members
  | _ => True

def AreWhole : List Json → Prop
  | [] => True
  | item :: rest => item.IsWhole ∧ AreWhole rest

def AreWholeMembers : List (String × Json) → Prop
  | [] => True
  | (_, value) :: rest => value.IsWhole ∧ AreWholeMembers rest

end

/-! The moves of the reader -/

variable {limit : Nat} {frames : List Frame} {bytes rest : Bytes}

theorem run_want {interest : Interest} {m : Machine}
    (h : beginValue limit interest frames bytes = .ok (m, rest)) :
    run limit ⟨.want interest, frames⟩ bytes = run limit m rest := by
  rw [run]
  split
  · rename_i hfault
    rw [h] at hfault
    cases hfault
  · rename_i hm
    rw [h] at hm
    cases hm
    rfl

theorem run_have {value : Json} {frame : Frame} {m : Machine}
    (h : continueFrame value frame frames bytes = .ok (m, rest)) :
    run limit ⟨.have value, frame :: frames⟩ bytes = run limit m rest := by
  rw [run]
  split
  · rename_i hfault
    rw [h] at hfault
    cases hfault
  · rename_i hm
    rw [h] at hm
    cases hm
    rfl

theorem run_end (value : Json) (bytes : Bytes) :
    run limit ⟨.have value, []⟩ bytes = .ok (value, bytes) := by
  rw [run]

theorem dropBlanks_cons {byte : UInt8} (h : isBlank byte = false) (rest : Bytes) :
    dropBlanks (byte :: rest) = byte :: rest := by
  rw [dropBlanks, List.dropWhile_cons_of_neg (by simp [h])]

/-! The text between the brackets -/

/-- What stands behind a piece: the pieces that follow it, each with its comma, and
the closing bracket. -/
def following (closing : Char) : List (List Char) → List Char
  | [] => [closing]
  | piece :: more => ',' :: (piece ++ following closing more)

theorem separate_append (closing : Char) (piece : List Char) (more : List (List Char)) :
    separate [','] (piece :: more) ++ [closing] = piece ++ following closing more := by
  induction more generalizing piece with
  | nil => rfl
  | cons next more ih =>
    rw [separate, List.append_assoc, ih, following, List.append_assoc, List.singleton_append]
    simp

def label (name : String) : List Char := quote name ++ [':']

/-! The same as bytes, in front of others -/

theorem bytes_array (item : Json) (items : List Json) (rest : Bytes) :
    ofChars (compactChars (.array (item :: items))) ++ rest =
      91 :: (ofChars item.compactChars ++ (ofChars (following ']' (compactItems items)) ++ rest)) := by
  rw [compactChars, compactItems, List.append_assoc, separate_append, List.singleton_append,
    ofChars_ascii_cons (by decide), Bytes.ofChars_append, List.cons_append, List.append_assoc]
  rfl

theorem bytes_object (name : String) (value : Json) (members : List (String × Json))
    (rest : Bytes) :
    ofChars (compactChars (.object ((name, value) :: members))) ++ rest =
      123 :: (ofChars (label name) ++ (ofChars value.compactChars ++
        (ofChars (following '}' (compactMembers members)) ++ rest))) := by
  rw [compactChars, compactMembers, List.append_assoc, separate_append, List.singleton_append,
    ofChars_ascii_cons (by decide), Bytes.ofChars_append, Bytes.ofChars_append, List.cons_append,
    List.append_assoc, List.append_assoc]
  rfl

theorem bytes_item (item : Json) (items : List Json) (rest : Bytes) :
    ofChars (following ']' (compactItems (item :: items))) ++ rest =
      44 :: (ofChars item.compactChars ++ (ofChars (following ']' (compactItems items)) ++ rest)) := by
  rw [compactItems, following, ofChars_ascii_cons (by decide), Bytes.ofChars_append,
    List.cons_append, List.append_assoc]
  rfl

theorem bytes_member (name : String) (value : Json) (members : List (String × Json))
    (rest : Bytes) :
    ofChars (following '}' (compactMembers ((name, value) :: members))) ++ rest =
      44 :: (ofChars (label name) ++ (ofChars value.compactChars ++
        (ofChars (following '}' (compactMembers members)) ++ rest))) := by
  rw [compactMembers, following, ofChars_ascii_cons (by decide), Bytes.ofChars_append,
    Bytes.ofChars_append, List.cons_append, List.append_assoc, List.append_assoc]
  rfl

def OpensValue (bytes : Bytes) : Prop :=
  ∃ byte rest, bytes = byte :: rest ∧ isBlank byte = false ∧ byte ≠ 93

theorem isBlank_digit {c : Char} (h : c.isDigit) : isBlank (UInt8.ofNat c.toNat) = false := by
  have hc := toNat_of_isDigit h
  have hn := toNat_digit h
  simp only [isBlank, Bool.or_eq_false_iff, decide_eq_false_iff_not]
  refine ⟨⟨⟨?_, ?_⟩, ?_⟩, ?_⟩ <;>
  · intro heq
    rw [heq] at hn
    have : c.toNat < 48 := by rw [← hn]; decide
    omega

/-- The text of a whole number: its digits, behind a sign if it is negative. -/
theorem numberText_int (value : Int) :
    numberText (.int value) =
      if value < 0 then '-' :: Nat.toDigits 10 value.natAbs else Nat.toDigits 10 value.natAbs := by
  cases value with
  | ofNat n =>
    rw [if_neg (show ¬ Int.ofNat n < 0 from (Int.natCast_nonneg n).not_gt)]
    change (Nat.repr n).toList = Nat.toDigits 10 n
    rw [Nat.repr_eq_ofList_toDigits, String.toList_ofList]
  | negSucc n =>
    rw [if_pos (Int.negSucc_lt_zero n)]
    change ("-" ++ Nat.repr (n + 1)).toList = '-' :: Nat.toDigits 10 (n + 1)
    simp [Nat.repr_eq_ofList_toDigits]

/-- The text of a value without floats opens a value. -/
theorem opensValue_compact {json : Json} (h : json.IsWhole) (rest : Bytes) :
    OpensValue (ofChars json.compactChars ++ rest) := by
  cases json with
  | null => exact ⟨110, [117, 108, 108] ++ rest, rfl, by decide, by decide⟩
  | bool value =>
    cases value with
    | true => exact ⟨116, [114, 117, 101] ++ rest, rfl, by decide, by decide⟩
    | false => exact ⟨102, [97, 108, 115, 101] ++ rest, rfl, by decide, by decide⟩
  | number value =>
    cases value with
    | float value => exact h.elim
    | int value =>
      rw [compactChars, numberText_int]
      split
      · exact ⟨45, _, rfl, by decide, by decide⟩
      · cases hdigits : Nat.toDigits 10 value.natAbs with
        | nil => exact absurd hdigits Nat.toDigits_ne_nil
        | cons c chars =>
          have hall : AreDigits (c :: chars) := hdigits ▸ areDigits_toDigits _
          have hc := hall c List.mem_cons_self
          refine ⟨_, _, by rw [ofChars_digits hall, List.cons_append], isBlank_digit hc, ?_⟩
          intro heq
          have hn := toNat_digit hc
          rw [heq] at hn
          have := toNat_of_isDigit hc
          have : c.toNat = 93 := hn.symm
          omega
  | string text => exact ⟨34, _, rfl, by decide, by decide⟩
  | array items => exact ⟨91, _, rfl, by decide, by decide⟩
  | object members => exact ⟨123, _, rfl, by decide, by decide⟩

/-! Values -/

theorem memberName_label (name : String) (rest : Bytes) :
    memberName false (ofChars (label name) ++ rest) = .ok (name, rest) := by
  have hname := stringToken_quote name (58 :: rest)
  have hbytes : ofChars (label name) ++ rest =
      34 :: (ofChars (name.toList.flatMap escapeChar) ++ 34 :: 58 :: rest) := by
    simp [label, quote, Bytes.ofChars_append, Bytes.ofChars_cons, String.utf8EncodeChar]
  rw [hbytes, memberName]
  simp [hname, dropBlanks_cons (show isBlank 58 = false by decide), bind, Except.bind]

/-- Behind a bracket whose array has items the reader wants the first of them. -/
theorem beginValue_array (hroom : frames.length < limit) (h : OpensValue rest) :
    beginValue limit .whole frames (91 :: rest) =
      .ok (⟨.want .whole, .array .whole [] :: frames⟩, rest) := by
  obtain ⟨byte, rest, rfl, hblank, hclosing⟩ := h
  rw [beginValue, dropBlanks_cons (by decide)]
  simp [beginArray, dropBlanks_cons hblank, hclosing, hroom, Interest.ofItem]

theorem beginValue_noItems (hroom : frames.length < limit) :
    beginValue limit .whole frames (91 :: 93 :: rest) = .ok (⟨.have (.array []), frames⟩, rest) := by
  rw [beginValue, dropBlanks_cons (by decide)]
  simp [beginArray, dropBlanks_cons (show isBlank 93 = false by decide), hroom]

/-- Behind a brace whose object has members the reader wants the value of the first. -/
theorem beginValue_object (hroom : frames.length < limit) (name : String) :
    beginValue limit .whole frames (123 :: (ofChars (label name) ++ rest)) =
      .ok (⟨.want .whole, .object .whole [] name :: frames⟩, rest) := by
  have hname := memberName_label name rest
  have hopen : ∃ tail, ofChars (label name) ++ rest = 34 :: tail := ⟨_, rfl⟩
  obtain ⟨tail, htail⟩ := hopen
  rw [htail] at hname ⊢
  rw [beginValue, dropBlanks_cons (by decide)]
  simp [beginObject, dropBlanks_cons (show isBlank 34 = false by decide), hroom, hname,
    Interest.isNothing, Interest.ofMember, bind, Except.bind]

theorem beginValue_noMembers (hroom : frames.length < limit) :
    beginValue limit .whole frames (123 :: 125 :: rest) =
      .ok (⟨.have (.object []), frames⟩, rest) := by
  rw [beginValue, dropBlanks_cons (by decide)]
  simp [beginObject, dropBlanks_cons (show isBlank 125 = false by decide), hroom]

theorem beginValue_string (text : String) :
    beginValue limit .whole frames (ofChars (quote text) ++ rest) =
      .ok (⟨.have (.string text), frames⟩, rest) := by
  have htext := stringToken_quote text rest
  have hbytes : ofChars (quote text) ++ rest =
      34 :: (ofChars (text.toList.flatMap escapeChar) ++ 34 :: rest) := by
    simp [quote, Bytes.ofChars_append, Bytes.ofChars_cons, String.utf8EncodeChar]
  rw [hbytes, beginValue, dropBlanks_cons (by decide)]
  simp [htext, Interest.isNothing, Except.map]

theorem natAbs_lt {value : Int} (h : InRange value) : value.natAbs < 2 ^ 64 := by
  obtain ⟨hlow, hhigh⟩ := h
  have hlow : -9223372036854775808 ≤ value := hlow
  have hhigh : value < 18446744073709551616 := hhigh
  change value.natAbs < 18446744073709551616
  omega

/-- A digit begins a number without a sign. -/
theorem beginValue_digit {c : Char} (h : c.isDigit) :
    beginValue limit .whole frames (UInt8.ofNat c.toNat :: rest) =
      (numberToken false false (UInt8.ofNat c.toNat) rest).map
        fun (value, rest) => (⟨.have value, frames⟩, rest) := by
  have hdigit := toNat_of_isDigit h
  have hn := toNat_digit h
  have hne {byte : UInt8} (hbyte : byte.toNat < 48 ∨ 57 < byte.toNat) :
      UInt8.ofNat c.toNat ≠ byte := by
    rintro rfl
    omega
  rw [beginValue, dropBlanks_cons (isBlank_digit h)]
  simp only [Interest.isNothing]
  iterate 7 rw [if_neg (hne (by decide))]

theorem beginValue_int {value : Int} (h : InRange value) (hrest : IsDelimited rest) :
    beginValue limit .whole frames (ofChars (numberText (.int value)) ++ rest) =
      .ok (⟨.have (.number (.int value)), frames⟩, rest) := by
  rw [numberText_int]
  cases hdigits : Nat.toDigits 10 value.natAbs with
  | nil => exact absurd hdigits Nat.toDigits_ne_nil
  | cons c chars =>
    have hall : AreDigits (c :: chars) := hdigits ▸ areDigits_toDigits _
    split
    · rename_i hneg
      have hvalue : numberValue true (ofChars (Nat.toDigits 10 value.natAbs)) none none =
          some (.int value) := by
        have hlow : value.natAbs ≤ 2 ^ 63 := by
          have hlow : -9223372036854775808 ≤ value := h.1
          change value.natAbs ≤ 9223372036854775808
          omega
        rw [numberValue_neg_toDigits (by omega) hlow]
        congr
        omega
      have htoken := numberToken_toDigits hvalue hdigits hrest
      rw [ofChars_ascii_cons (by decide), ofChars_digits hall, List.cons_append, List.cons_append,
        beginValue, dropBlanks_cons (by decide)]
      simp [Interest.isNothing, htoken, Except.map]
    · rename_i hpos
      have hvalue : numberValue false (ofChars (Nat.toDigits 10 value.natAbs)) none none =
          some (.int value) := by
        rw [numberValue_toDigits (natAbs_lt h)]
        congr
        omega
      rw [ofChars_digits hall, List.cons_append, beginValue_digit (hall c List.mem_cons_self),
        numberToken_toDigits hvalue hdigits hrest]
      rfl

theorem isDelimited_following (closing : Char) (h : closing = ']' ∨ closing = '}')
    (pieces : List (List Char)) (rest : Bytes) :
    IsDelimited (ofChars (following closing pieces) ++ rest) := by
  cases pieces with
  | nil =>
    rcases h with rfl | rfl
    · exact isDelimited_cons (show IsDelimiter 93 by unfold IsDelimiter; decide) rest
    · exact isDelimited_cons (show IsDelimiter 125 by unfold IsDelimiter; decide) rest
  | cons piece more =>
    exact isDelimited_cons (show IsDelimiter 44 by unfold IsDelimiter; decide) _

/-! What follows a value -/

theorem continueFrame_item {value : Json} {done : List Json} (h : OpensValue rest) :
    continueFrame value (.array .whole done) frames (44 :: rest) =
      .ok (⟨.want .whole, .array .whole (value :: done) :: frames⟩, rest) := by
  obtain ⟨byte, rest, rfl, hblank, hclosing⟩ := h
  rw [continueFrame, dropBlanks_cons (by decide)]
  simp [dropBlanks_cons hblank, hclosing, Interest.ofItem]

theorem continueFrame_member {value : Json} {done : List (String × Json)} (name next : String) :
    continueFrame value (.object .whole done name) frames (44 :: (ofChars (label next) ++ rest)) =
      .ok (⟨.want .whole, .object .whole ((name, value) :: done) next :: frames⟩, rest) := by
  have hname := memberName_label next rest
  obtain ⟨tail, htail⟩ : ∃ tail, ofChars (label next) ++ rest = 34 :: tail := ⟨_, rfl⟩
  rw [htail] at hname ⊢
  rw [continueFrame, dropBlanks_cons (by decide)]
  simp [dropBlanks_cons (show isBlank 34 = false by decide), hname, Interest.isNothing,
    Interest.ofMember, bind, Except.bind]

mutual

/-- Behind the text of a value the reader has the value. -/
theorem run_compact (json : Json) (hwhole : json.IsWhole) (frames : List Frame)
    (hdepth : json.depth + frames.length ≤ limit) (rest : Bytes) (hrest : IsDelimited rest) :
    run limit ⟨.want .whole, frames⟩ (ofChars json.compactChars ++ rest) =
      run limit ⟨.have json, frames⟩ rest := by
  cases json with
  | null => exact run_want rfl
  | bool value =>
    cases value with
    | true => exact run_want rfl
    | false => exact run_want rfl
  | number value =>
    cases value with
    | float value => exact hwhole.elim
    | int value => exact run_want (beginValue_int hwhole hrest)
  | string text => exact run_want (beginValue_string text)
  | array items =>
    rw [depth] at hdepth
    have hroom : frames.length < limit := by omega
    cases items with
    | nil => exact run_want (beginValue_noItems hroom)
    | cons item items =>
      rw [depthOfItems] at hdepth
      rw [bytes_array, run_want (beginValue_array hroom (opensValue_compact hwhole.1 _)),
        run_compact item hwhole.1 _ (by simp only [List.length_cons]; omega) _
          (isDelimited_following _ (.inl rfl) _ _),
        run_items items hwhole.2 item [] frames (by omega) rest]
      rfl
  | object members =>
    rw [depth] at hdepth
    have hroom : frames.length < limit := by omega
    cases members with
    | nil => exact run_want (beginValue_noMembers hroom)
    | cons member members =>
      obtain ⟨name, value⟩ := member
      rw [depthOfMembers] at hdepth
      rw [bytes_object, run_want (beginValue_object hroom name),
        run_compact value hwhole.1 _ (by simp only [List.length_cons]; omega) _
          (isDelimited_following _ (.inr rfl) _ _),
        run_members members hwhole.2 name value [] frames (by omega) rest]
      rfl

/-- Behind an item the reader goes on to the end of the array. -/
theorem run_items (items : List Json) (hwhole : AreWhole items) (value : Json) (done : List Json)
    (frames : List Frame) (hdepth : depthOfItems items + 1 + frames.length ≤ limit) (rest : Bytes) :
    run limit ⟨.have value, .array .whole done :: frames⟩
        (ofChars (following ']' (compactItems items)) ++ rest) =
      run limit ⟨.have (.array (done.reverse ++ value :: items)), frames⟩ rest := by
  cases items with
  | nil =>
    have hend : continueFrame value (.array .whole done) frames (93 :: rest) =
        .ok (⟨.have (.array (value :: done).reverse), frames⟩, rest) := rfl
    rw [List.reverse_cons] at hend
    exact run_have hend
  | cons item items =>
    rw [depthOfItems] at hdepth
    rw [bytes_item, run_have (continueFrame_item (opensValue_compact hwhole.1 _)),
      run_compact item hwhole.1 _ (by simp only [List.length_cons]; omega) _
        (isDelimited_following _ (.inl rfl) _ _),
      run_items items hwhole.2 item (value :: done) frames (by omega) rest]
    simp

/-- Behind a member the reader goes on to the end of the object. -/
theorem run_members (members : List (String × Json)) (hwhole : AreWholeMembers members)
    (name : String) (value : Json) (done : List (String × Json)) (frames : List Frame)
    (hdepth : depthOfMembers members + 1 + frames.length ≤ limit) (rest : Bytes) :
    run limit ⟨.have value, .object .whole done name :: frames⟩
        (ofChars (following '}' (compactMembers members)) ++ rest) =
      run limit ⟨.have (.object (done.reverse ++ (name, value) :: members)), frames⟩ rest := by
  cases members with
  | nil =>
    have hend : continueFrame value (.object .whole done name) frames (125 :: rest) =
        .ok (⟨.have (.object ((name, value) :: done).reverse), frames⟩, rest) := rfl
    rw [List.reverse_cons] at hend
    exact run_have hend
  | cons member members =>
    obtain ⟨next, following⟩ := member
    rw [depthOfMembers] at hdepth
    rw [bytes_member, run_have (continueFrame_member name next),
      run_compact following hwhole.1 _ (by simp only [List.length_cons]; omega) _
        (isDelimited_following _ (.inr rfl) _ _),
      run_members members hwhole.2 next following ((name, value) :: done) frames (by omega) rest]
    simp

end

/-- A value without floats that is not nested too deeply comes back from its text. -/
theorem readDocument_compact {json : Json} (hwhole : json.IsWhole) (hdepth : json.depth ≤ maxDepth) :
    readDocument .whole (ofText json.compact) = .ok json := by
  have h := run_compact json hwhole [] (by simpa using hdepth) [] isDelimited_nil
  rw [List.append_nil, run_end] at h
  rw [compact, Bytes.ofText_ofList, readDocument, readFront, h]
  rfl

/-! A compact text is one line -/

theorem newline_notMem_escapeChar (c : Char) : '\n' ∉ escapeChar c := by
  have hdigits : ∀ n < 0x20, '\n' ∉ fourDigits n := by decide
  rw [escapeChar]
  iterate 5
    split
    · decide
  rename_i hnewline
  iterate 2
    split
    · decide
  split
  · rename_i hcontrol
    simpa using hdigits c.toNat hcontrol
  · simpa using Ne.symm hnewline

theorem newline_notMem_quote (text : String) : '\n' ∉ quote text := by
  simp [quote, newline_notMem_escapeChar]

theorem newline_notMem_toDigits (n : Nat) : '\n' ∉ Nat.toDigits 10 n := by
  intro h
  have := areDigits_toDigits _ _ h
  contradiction

theorem newline_notMem_wholeText (value : Int) : '\n' ∉ numberText (.int value) := by
  have hdigits := newline_notMem_toDigits value.natAbs
  rw [numberText_int]
  split
  · simpa using hdigits
  · exact hdigits

theorem newline_notMem_positional {digits : List Char} (h : '\n' ∉ digits) (point : Int) :
    '\n' ∉ Binary64.positional digits point := by
  have hzeros (n : Nat) : '\n' ∉ Binary64.zeros n := by simp [Binary64.zeros]
  unfold Binary64.positional
  split
  · simp [hzeros, h]
  split
  · simp [hzeros, h]
  · have htake (n : Nat) : '\n' ∉ digits.take n := fun hmem => h (List.mem_of_mem_take hmem)
    have hdrop (n : Nat) : '\n' ∉ digits.drop n := fun hmem => h (List.mem_of_mem_drop hmem)
    simp [htake, hdrop]

theorem newline_notMem_floatText (x : Binary64) : '\n' ∉ numberText (.float x) := by
  have hsign : '\n' ∉ x.sign := by
    unfold Binary64.sign
    split <;> decide
  have hdigits : '\n' ∉ x.digitsAndPoint.1 := by
    unfold Binary64.digitsAndPoint
    split
    · decide
    · exact newline_notMem_toDigits _
  have hpower := newline_notMem_wholeText (x.digitsAndPoint.2 - 1)
  rw [numberText] at hpower
  rw [numberText, Binary64.text]
  generalize x.digitsAndPoint = found at hdigits hpower ⊢
  obtain ⟨digits, point⟩ := found
  dsimp only at hdigits hpower ⊢
  split
  · simpa [hsign] using newline_notMem_positional hdigits point
  · have hmark : '\n' ∉ if 0 < point then ['e', '+'] else ['e'] := by split <;> decide
    simp only [String.toList_append, String.toList_ofList, List.mem_append, not_or]
    refine ⟨⟨⟨hsign, ?_⟩, hmark⟩, hpower⟩
    split
    · exact hdigits
    · simpa using hdigits
    · decide

theorem newline_notMem_numberText (value : JsonNumber) : '\n' ∉ numberText value := by
  cases value with
  | int value => exact newline_notMem_wholeText value
  | float value => exact newline_notMem_floatText value

theorem mem_separate {separator : List Char} {pieces : List (List Char)} {c : Char}
    (h : c ∈ separate separator pieces) : c ∈ separator ∨ ∃ piece ∈ pieces, c ∈ piece := by
  induction pieces with
  | nil => cases h
  | cons piece more ih =>
    cases more with
    | nil => exact .inr ⟨piece, List.mem_cons_self, h⟩
    | cons next more =>
      rw [separate, List.mem_append, List.mem_append] at h
      · rcases h with (h | h) | h
        · exact .inr ⟨piece, List.mem_cons_self, h⟩
        · exact .inl h
        · rcases ih h with h | ⟨other, hother, h⟩
          · exact .inl h
          · exact .inr ⟨other, List.mem_cons_of_mem _ hother, h⟩
      · simp

mutual

theorem newline_notMem_compactChars (json : Json) : '\n' ∉ json.compactChars := by
  cases json with
  | null => decide
  | bool value => cases value <;> decide
  | number value => exact newline_notMem_numberText value
  | string text => exact newline_notMem_quote text
  | array items =>
    intro h
    simp only [compactChars, List.mem_append, List.mem_singleton] at h
    rcases h with (h | h) | h
    · contradiction
    · rcases mem_separate h with h | ⟨piece, hpiece, h⟩
      · simp at h
      · exact newline_notMem_compactItems items piece hpiece h
    · contradiction
  | object members =>
    intro h
    simp only [compactChars, List.mem_append, List.mem_singleton] at h
    rcases h with (h | h) | h
    · contradiction
    · rcases mem_separate h with h | ⟨piece, hpiece, h⟩
      · simp at h
      · exact newline_notMem_compactMembers members piece hpiece h
    · contradiction

theorem newline_notMem_compactItems (items : List Json) :
    ∀ piece ∈ compactItems items, '\n' ∉ piece := by
  cases items with
  | nil => simp [compactItems]
  | cons item items =>
    intro piece hpiece
    rcases List.mem_cons.mp hpiece with rfl | hpiece
    · exact newline_notMem_compactChars item
    · exact newline_notMem_compactItems items piece hpiece

theorem newline_notMem_compactMembers (members : List (String × Json)) :
    ∀ piece ∈ compactMembers members, '\n' ∉ piece := by
  cases members with
  | nil => simp [compactMembers]
  | cons member members =>
    intro piece hpiece
    rcases List.mem_cons.mp hpiece with rfl | hpiece
    · have hname := newline_notMem_quote member.1
      have hvalue := newline_notMem_compactChars member.2
      simp [hname, hvalue]
    · exact newline_notMem_compactMembers members piece hpiece

end

/-- A line end is a byte of no other character. -/
theorem newline_notMem_ofChars {chars : List Char} (h : '\n' ∉ chars) : 10 ∉ ofChars chars := by
  intro hmem
  obtain ⟨c, hc, hbyte⟩ := List.mem_flatMap.mp hmem
  have hascii := Bytes.ascii_of_mem_encode (by decide) hbyte
  rw [Bytes.utf8EncodeChar_of_ascii hascii, List.mem_singleton] at hbyte
  have hchar : c = '\n' := by
    rw [← Bytes.letter_ofNat hascii, ← hbyte]
    rfl
  exact h (hchar ▸ hc)

end Provenance.Json
