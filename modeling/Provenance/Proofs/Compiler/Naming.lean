import Provenance.Compiler.Name
import Provenance.Proofs.Success
import Provenance.Proofs.Text.Decimal

/-!
The names of compilers. A text is a name exactly if it is spelled as one: with one mark
in front or none, three decimal numerals below `2 ^ 64` with single points between them,
and the commit, of which at least one hex digit is given. The long version is the same
name without the mark and without zeros in front of numbers, and it is read as the name
that it is the long version of.
-/

namespace Provenance

namespace Cut

variable {p : Char → Bool} {c : Char} {separator text front back piece : List Char}

theorem eq_of_once (h : once separator text = some (front, back)) :
    text = front ++ separator ++ back := by
  induction text generalizing front with
  | nil =>
    rw [once] at h
    split_ifs at h with hempty
    obtain ⟨rfl, rfl⟩ := Prod.mk.inj (Option.some.inj h)
    rw [List.isEmpty_iff.1 hempty]
    rfl
  | cons c text ih =>
    rw [once] at h
    split_ifs at h with hprefix
    · obtain ⟨rfl, rfl⟩ := Prod.mk.inj (Option.some.inj h)
      rw [List.nil_append]
      exact List.prefix_iff_eq_append.1 (List.isPrefixOf_iff_prefix.1 hprefix) |>.symm
    · obtain ⟨⟨front', back'⟩, hrest, hpair⟩ := Option.map_eq_some_iff.1 h
      obtain ⟨rfl, rfl⟩ := Prod.mk.inj hpair
      rw [ih hrest]
      rfl

/-- A text is cut at a separator whose first character does not stand in front of it. -/
theorem once_append (hfront : c ∉ front) :
    once (c :: separator) (front ++ c :: separator ++ back) = some (front, back) := by
  induction front with
  | nil =>
    rw [List.nil_append, List.cons_append, once, if_pos]
    · simp
    · rw [List.isPrefixOf_iff_prefix, ← List.cons_append]
      exact List.prefix_append _ _
  | cons d front ih =>
    obtain ⟨hd, hfront⟩ := not_or.1 (mt List.mem_cons.2 hfront)
    rw [List.cons_append, List.cons_append, once, if_neg, ih hfront]
    · rfl
    · rw [List.isPrefixOf_iff_prefix, List.cons_prefix_cons]
      exact fun h => hd h.1

theorem pieces_ne_nil (p : Char → Bool) (text : List Char) : pieces p text ≠ [] := by
  cases text with
  | nil => simp [pieces]
  | cons c text =>
    rw [pieces]
    split
    · simp
    · split <;> simp

theorem pieces_cons_of_neg (hc : p c = false) (htext : pieces p text = front :: more) :
    pieces p (c :: text) = (c :: front) :: more := by
  rw [pieces, hc, htext]
  rfl

theorem pieces_eq_singleton (htext : ∀ d ∈ text, p d = false) : pieces p text = [text] := by
  induction text with
  | nil => rfl
  | cons d text ih =>
    obtain ⟨hd, htext⟩ := List.forall_mem_cons.1 htext
    exact pieces_cons_of_neg hd (ih htext)

theorem pieces_append (hfront : ∀ d ∈ front, p d = false) (hc : p c = true) :
    pieces p (front ++ c :: back) = front :: pieces p back := by
  induction front with
  | nil =>
    rw [List.nil_append, pieces, if_pos hc]
  | cons d front ih =>
    obtain ⟨hd, hfront⟩ := List.forall_mem_cons.1 hfront
    exact pieces_cons_of_neg hd (ih hfront)

/-- What the first piece is a part of. -/
theorem eq_of_pieces {more : List (List Char)} (h : pieces p text = piece :: more) :
    (more = [] ∧ text = piece) ∨
      ∃ c back, p c = true ∧ text = piece ++ c :: back ∧ pieces p back = more := by
  induction text generalizing piece with
  | nil =>
    obtain ⟨rfl, rfl⟩ := List.cons.inj h
    exact .inl ⟨rfl, rfl⟩
  | cons d text ih =>
    rw [pieces] at h
    split_ifs at h with hd
    · obtain ⟨rfl, rfl⟩ := List.cons.inj h
      exact .inr ⟨d, text, hd, rfl, rfl⟩
    · obtain ⟨first, rest, hrest⟩ := List.exists_cons_of_ne_nil (pieces_ne_nil p text)
      rw [hrest] at h
      obtain ⟨rfl, rfl⟩ := List.cons.inj h
      rcases ih hrest with ⟨rfl, rfl⟩ | ⟨c, back, hc, rfl, hback⟩
      · exact .inl ⟨rfl, rfl⟩
      · exact .inr ⟨c, back, hc, rfl, hback⟩

end Cut

namespace CompilerName

open Unsigned

variable {name : CompilerName} {major minor patch commit : List Char}

def pointed (major minor patch : List Char) : List Char :=
  major ++ '.' :: (minor ++ '.' :: patch)

/-- A way to spell a name: with or without the mark, and with any zeros in front of the
numbers. -/
structure Spelling (name : CompilerName) where
  marked : Bool
  major : List Char
  minor : List Char
  patch : List Char
  commit : List Char
  isMajor : IsNumeral major name.major
  isMinor : IsNumeral minor name.minor
  isPatch : IsNumeral patch name.patch
  isCommit : String.ofList commit = name.commit
  commit_ne_nil : commit ≠ []
  isHex : ∀ c ∈ commit, Ascii.isHexDigit c = true

namespace Spelling

def body (s : name.Spelling) : List Char :=
  pointed s.major s.minor s.patch ++ commitMark.toList ++ s.commit

def text (s : name.Spelling) : String :=
  String.ofList (if s.marked then 'v' :: s.body else s.body)

def mark (s : name.Spelling) : name.Spelling := { s with marked := true }

def trimmed (s : name.Spelling) : name.Spelling :=
  { s with
    marked := false
    major := withoutZeros s.major
    minor := withoutZeros s.minor
    patch := withoutZeros s.patch
    isMajor := s.isMajor.withoutZeros
    isMinor := s.isMinor.withoutZeros
    isPatch := s.isPatch.withoutZeros }

end Spelling

/-! Reading -/

theorem commitMark_eq : commitMark.toList = '+' :: "commit.".toList := rfl

theorem isPoint_eq_false_of_isDigit {c : Char} (h : Ascii.isDigit c = true) :
    decide (c = '.') = false := by
  rw [decide_eq_false_iff_not]
  rintro rfl
  cases h

theorem number_eq_ok_iff {text : String} {digits : List Char} {n : Nat} :
    number text digits = .ok n ↔ IsNumeral digits n := by
  unfold number
  split_ifs with hbad
  · constructor
    · rintro ⟨⟩
    · intro h
      rw [Bool.or_eq_true, Bool.not_eq_true', List.all_eq_false] at hbad
      rcases hbad with hempty | ⟨c, hc, hdigit⟩
      · exact absurd (List.isEmpty_iff.1 hempty) h.ne_nil
      · exact absurd (h.digits c hc) hdigit
  · rw [Bool.or_eq_true, not_or, Bool.not_eq_true', Bool.not_eq_false, List.all_eq_true] at hbad
    rw [mapError_eq_ok_iff, Unsigned.parse_eq_ok_iff]
    refine ⟨fun h => h.elim id ?_, .inl⟩
    rintro ⟨rest, rfl, -⟩
    exact absurd (hbad.2 '+' List.mem_cons_self) (by decide)

/-- Between points there are three numerals exactly if the text is these numerals with
points between them. -/
theorem pieces_pointed {a b c : Nat} (hmajor : IsNumeral major a) (hminor : IsNumeral minor b)
    (hpatch : IsNumeral patch c) :
    Cut.pieces (· = '.') (pointed major minor patch) = [major, minor, patch] := by
  have hpoint {text : List Char} {n : Nat} (h : IsNumeral text n) (d : Char) (hd : d ∈ text) :
      decide (d = '.') = false := isPoint_eq_false_of_isDigit (h.digits d hd)
  rw [pointed, Cut.pieces_append (hpoint hmajor) (by decide),
    Cut.pieces_append (hpoint hminor) (by decide), Cut.pieces_eq_singleton (hpoint hpatch)]

theorem eq_pointed_of_pieces {text : List Char}
    (h : Cut.pieces (· = '.') text = [major, minor, patch]) : text = pointed major minor patch := by
  obtain ⟨c, behind, hc, rfl, hbehind⟩ := (Cut.eq_of_pieces h).resolve_left (by simp)
  obtain ⟨d, rest, hd, rfl, hrest⟩ := (Cut.eq_of_pieces hbehind).resolve_left (by simp)
  obtain ⟨-, rfl⟩ := (Cut.eq_of_pieces hrest).resolve_right (by
    rintro ⟨e, back, -, -, hback⟩
    exact Cut.pieces_ne_nil _ back hback)
  obtain rfl := of_decide_eq_true hc
  obtain rfl := of_decide_eq_true hd
  rfl

/-- The mark is read with the commit behind it: no plus sign stands in a version. -/
theorem once_body (s : name.Spelling) : Cut.once commitMark.toList s.body =
    some (pointed s.major s.minor s.patch, s.commit) := by
  have hplus {text : List Char} {n : Nat} (h : IsNumeral text n) : '+' ∉ text := fun hmem =>
    absurd (h.digits '+' hmem) (by decide)
  rw [Spelling.body, commitMark_eq]
  apply Cut.once_append
  simp [pointed, hplus s.isMajor, hplus s.isMinor, hplus s.isPatch]

theorem dropMark_text (s : name.Spelling) : dropMark s.text.toList = s.body := by
  rw [Spelling.text, String.toList_ofList]
  cases s.marked with
  | true => rfl
  | false =>
    obtain ⟨c, rest, hmajor⟩ := List.exists_cons_of_ne_nil s.isMajor.ne_nil
    have hc := s.isMajor.digits c (hmajor ▸ List.mem_cons_self)
    rw [if_neg Bool.false_ne_true, Spelling.body, pointed, hmajor, List.cons_append,
      List.cons_append, List.cons_append, dropMark]
    intro rest' heq
    obtain ⟨rfl, -⟩ := List.cons.inj heq
    cases hc

theorem eq_of_dropMark {text body : List Char} (h : dropMark text = body) :
    text = body ∨ text = 'v' :: body := by
  unfold dropMark at h
  split at h
  · exact .inr (by rw [h])
  · exact .inl h

/-- However a name is spelled, it is read. -/
theorem parse_text (s : name.Spelling) : parse s.text = .ok name := by
  have hhex : (s.commit.isEmpty || !s.commit.all Ascii.isHexDigit) = false := by
    rw [Bool.or_eq_false_iff, Bool.not_eq_false', List.all_eq_true]
    exact ⟨by simpa using s.commit_ne_nil, s.isHex⟩
  unfold parse
  rw [dropMark_text, once_body]
  dsimp only
  rw [hhex, pieces_pointed s.isMajor s.isMinor s.isPatch]
  simp only [Bool.false_eq_true, if_false, number_eq_ok_iff.2 s.isMajor,
    number_eq_ok_iff.2 s.isMinor, number_eq_ok_iff.2 s.isPatch, bind, Except.bind, s.isCommit]

/-- What is read as a name is a spelling of it. -/
theorem exists_spelling_of_parse {text : String} (h : parse text = .ok name) :
    ∃ s : name.Spelling, s.text = text := by
  unfold parse at h
  cases honce : Cut.once commitMark.toList (dropMark text.toList) with
  | none =>
    rw [honce] at h
    cases h
  | some cut =>
    obtain ⟨version, commit⟩ := cut
    rw [honce] at h
    dsimp only at h
    split_ifs at h with hbad
    rw [Bool.or_eq_true, not_or, Bool.not_eq_true', Bool.not_eq_false, List.all_eq_true] at hbad
    obtain ⟨hcommit, hhex⟩ := hbad
    split at h
    · rename_i major minor patch hpieces
      obtain ⟨a, hmajor, h⟩ := exists_of_bind_eq_ok h
      obtain ⟨b, hminor, h⟩ := exists_of_bind_eq_ok h
      obtain ⟨c, hpatch, h⟩ := exists_of_bind_eq_ok h
      obtain rfl := Except.ok.inj h
      obtain rfl := eq_pointed_of_pieces hpieces
      have hbody := Cut.eq_of_once honce
      -- The two spellings differ in the mark alone.
      have hspelled (marked : Bool) (htext : text.toList = if marked then 'v' :: dropMark text.toList
          else dropMark text.toList) : ∃ s : Spelling ⟨a, b, c, String.ofList commit⟩,
            s.text = text := by
        refine ⟨⟨marked, major, minor, patch, commit, number_eq_ok_iff.1 hmajor,
          number_eq_ok_iff.1 hminor, number_eq_ok_iff.1 hpatch, rfl, by simpa using hcommit, hhex⟩, ?_⟩
        rw [Spelling.text, Spelling.body, ← hbody, ← htext, String.ofList_toList]
      rcases eq_of_dropMark rfl with htext | htext
      · exact hspelled false htext
      · exact hspelled true htext
    · cases h

theorem parse_eq_ok_iff {text : String} :
    parse text = .ok name ↔ ∃ s : name.Spelling, s.text = text := by
  constructor
  · exact exists_spelling_of_parse
  · rintro ⟨s, rfl⟩
    exact parse_text s

/-! Writing -/

namespace Spelling

theorem version_eq (s : name.Spelling) : name.version =
    String.ofList (pointed (withoutZeros s.major) (withoutZeros s.minor) (withoutZeros s.patch)) := by
  have hnumber (n : Nat) : (toString n).toList = Nat.toDigits 10 n := by
    change (Nat.repr n).toList = _
    rw [Nat.repr_eq_ofList_toDigits, String.toList_ofList]
  apply String.toList_inj.1
  simp only [version, String.toList_append, hnumber, s.isMajor.toDigits_eq, s.isMinor.toDigits_eq,
    s.isPatch.toDigits_eq, String.toList_ofList, pointed, List.append_assoc]
  rfl

/-- Without mark and without zeros in front a name is spelled as it is written. -/
theorem text_trimmed (s : name.Spelling) : s.trimmed.text = name.longVersion := by
  apply String.toList_inj.1
  rw [longVersion, s.version_eq, ← s.isCommit]
  simp [text, trimmed, body, String.toList_ofList]

theorem marked_text {s : name.Spelling} (h : s.text.toList.head? ≠ some 'v') :
    s.mark.text = "v" ++ s.text := by
  have hmarked : s.marked = false := by
    rw [← Bool.not_eq_true]
    intro hmarked
    simp [text, hmarked] at h
  apply String.toList_inj.1
  simp [text, mark, body, hmarked]

end Spelling

/-- A text is read as a name exactly if it is a spelling of this name. Then the version
of the name is its three numbers without zeros in front, the commit is as it was
written, and the long version is these two; the long version is read as the same name,
and so is the text with a mark, if it has none. -/
theorem parse_spelled (text : String) :
    (∀ name, parse text = .ok name ↔ ∃ s : name.Spelling, s.text = text) ∧
    ∀ name, ∀ s : name.Spelling, s.text = text →
      name.version = String.ofList (pointed (withoutZeros s.major) (withoutZeros s.minor)
        (withoutZeros s.patch)) ∧
      name.commit = String.ofList s.commit ∧
      name.longVersion = name.version ++ commitMark ++ name.commit ∧
      parse name.longVersion = .ok name ∧
      (text.toList.head? ≠ some 'v' → parse ("v" ++ text) = parse text) := by
  refine ⟨fun name => parse_eq_ok_iff, ?_⟩
  rintro name s rfl
  refine ⟨s.version_eq, s.isCommit.symm, rfl, ?_, fun hunmarked => ?_⟩
  · rw [← s.text_trimmed]
    exact parse_text s.trimmed
  · rw [← Spelling.marked_text hunmarked, parse_text, parse_text]

def padded : Spelling ⟨0, 8, 9, "E5eed63a"⟩ where
  marked := false
  major := ['0', '0']
  minor := ['0', '8']
  patch := ['9']
  commit := "E5eed63a".toList
  isMajor := ⟨by decide, List.all_eq_true.1 (by decide), by decide, by norm_num⟩
  isMinor := ⟨by decide, List.all_eq_true.1 (by decide), by decide, by norm_num⟩
  isPatch := ⟨by decide, List.all_eq_true.1 (by decide), by decide, by norm_num⟩
  isCommit := by rw [String.ofList_toList]
  commit_ne_nil := by decide
  isHex := List.all_eq_true.1 (by decide)

theorem parse_spelled_padded :
    let name : CompilerName := ⟨0, 8, 9, "E5eed63a"⟩
    parse "00.08.9+commit.E5eed63a" = .ok name ∧ name.version = "0.8.9" ∧
      parse "0.8.9+commit.E5eed63a" = .ok name ∧
      parse "v00.08.9+commit.E5eed63a" = parse "00.08.9+commit.E5eed63a" := by
  intro name
  have htext : padded.text = "00.08.9+commit.E5eed63a" := by decide
  obtain ⟨hread, hspelled⟩ := parse_spelled "00.08.9+commit.E5eed63a"
  obtain ⟨hversion, -, -, hlong, hmark⟩ := hspelled name padded htext
  have hshort : name.longVersion = "0.8.9+commit.E5eed63a" := by decide
  rw [hshort] at hlong
  exact ⟨(hread name).2 ⟨padded, htext⟩, hversion.trans (by decide), hlong, hmark (by decide)⟩

end CompilerName

end Provenance
