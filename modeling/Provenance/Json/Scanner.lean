import Provenance.Json.Value
import Provenance.Hex
import Provenance.Text.Utf8

/-!
The leaves of JSON text: blanks, literals, numbers and strings. A text that ends
too early is told apart from one that is malformed. No reader ever returns more
bytes than it was given.
-/

namespace Provenance.Json

/-- Why a text is no JSON value. -/
inductive Fault where
  /-- The text ends before the value does. -/
  | unfinished
  | malformed
  deriving DecidableEq, Repr

abbrev Reader (α : Type) := Bytes → Except Fault (α × Bytes)

def isBlank (byte : UInt8) : Bool := byte = 32 || byte = 9 || byte = 10 || byte = 13

def dropBlanks (bytes : Bytes) : Bytes := bytes.dropWhile isBlank

/-- The rest of a literal whose first byte has been read. -/
def literal (value : Json) : Bytes → Reader Json
  | [], bytes => .ok (value, bytes)
  | _ :: _, [] => .error .unfinished
  | expected :: more, byte :: rest =>
    if byte = expected then literal value more rest else .error .malformed

def isDigit (byte : UInt8) : Bool := 48 ≤ byte.toNat && byte.toNat ≤ 57

/-- The number that a run of digits denotes, continuing from `acc`. -/
def digitsValue (acc : Nat) (digits : Bytes) : Nat :=
  digits.foldl (fun n byte => 10 * n + (byte.toNat - 48)) acc

def digits1 (bytes : Bytes) : Except Fault (Bytes × Bytes) :=
  match bytes with
  | [] => .error .unfinished
  | byte :: _ =>
    if isDigit byte then .ok (bytes.takeWhile isDigit, bytes.dropWhile isDigit)
    else .error .malformed

def fraction (bytes : Bytes) : Except Fault (Option Bytes × Bytes) :=
  match bytes with
  | 46 :: rest => (digits1 rest).map fun (digits, rest) => (some digits, rest)
  | _ => .ok (none, bytes)

def exponent (bytes : Bytes) : Except Fault (Option Int × Bytes) :=
  match bytes with
  | mark :: rest =>
    if mark = 101 ∨ mark = 69 then
      match rest with
      | 43 :: rest =>
        (digits1 rest).map fun (digits, rest) => (some (digitsValue 0 digits : Int), rest)
      | 45 :: rest =>
        (digits1 rest).map fun (digits, rest) => (some (-(digitsValue 0 digits : Int)), rest)
      | rest =>
        (digits1 rest).map fun (digits, rest) => (some (digitsValue 0 digits : Int), rest)
    else .ok (none, bytes)
  | [] => .ok (none, bytes)

/-- The number that digits continue, as far as it fits sixty-four bits, and how
many digits that takes. -/
def absorb (acc : Nat) : Bytes → Nat × Nat
  | [] => (acc, 0)
  | byte :: rest =>
    let next := 10 * acc + (byte.toNat - 48)
    if next < 2 ^ 64 then
      let (n, count) := absorb next rest
      (n, count + 1)
    else (acc, 0)

/-- The value of a number's digits, if it is in range. Of digits that do not fit
sixty-four bits only the place counts. A number with neither fraction nor exponent
is whole where it fits; a negative zero does not. -/
def numberValue (negative : Bool) (whole : Bytes) (fraction : Option Bytes)
    (exponent : Option Int) : Option JsonNumber :=
  let (n, count) := absorb 0 whole
  let beyond := whole.length - count
  let (digits, decimals) := absorb n (fraction.getD [])
  let float := (Binary64.ofDecimal? negative digits
    (beyond - decimals + exponent.getD 0)).map JsonNumber.float
  if fraction.isSome || exponent.isSome || beyond ≠ 0 then float
  else if negative then
    if 0 < n ∧ n ≤ 2 ^ 63 then some (.int (-(n : Int))) else float
  else some (.int n)

/-- The digits of the whole part of a number whose first byte has been read. A zero
in front stands alone. -/
def wholePart (first : UInt8) (rest : Bytes) : Except Fault (Bytes × Bytes) :=
  if first = 48 then
    if (rest.head?.map isDigit).getD false then .error .malformed else .ok ([first], rest)
  else if isDigit first then .ok (first :: rest.takeWhile isDigit, rest.dropWhile isDigit)
  else .error .malformed

/-- A number whose sign, if any, and first byte have been read. One that is passed
over may be out of range. -/
def numberToken (passing negative : Bool) (first : UInt8) : Reader Json := fun rest => do
  let (whole, rest) ← wholePart first rest
  let (decimals, rest) ← fraction rest
  let (power, rest) ← exponent rest
  match numberValue negative whole decimals power with
  | some value => .ok (.number value, rest)
  | none => if passing then .ok (.null, rest) else .error .malformed

def codeUnit? (a b c d : UInt8) : Option Nat := do
  let a ← Hex.value? a
  let b ← Hex.value? b
  let c ← Hex.value? c
  let d ← Hex.value? d
  some (((a * 16 + b) * 16 + c) * 16 + d)

def letterEscape? (byte : UInt8) : Option UInt8 :=
  if byte = 34 ∨ byte = 92 ∨ byte = 47 then some byte
  else if byte = 98 then some 8
  else if byte = 102 then some 12
  else if byte = 110 then some 10
  else if byte = 114 then some 13
  else if byte = 116 then some 9
  else none

def surrogatePair (high low : Nat) : Char :=
  Char.ofNat ((high - 0xD800) * 0x400 + (low - 0xDC00) + 0x10000)

def prepend (content : Bytes) (following : Except Fault (Bytes × Bytes)) :
    Except Fault (Bytes × Bytes) :=
  following.map fun (more, rest) => (content ++ more, rest)

/-- The content of a string whose opening quote has been read, up to and with
its closing quote. Surrogates come in pairs. -/
def stringContent : Bytes → Except Fault (Bytes × Bytes)
  | [] => .error .unfinished
  | byte :: rest =>
    if byte = 34 then .ok ([], rest)
    else if byte = 92 then
      match rest with
      | [] => .error .unfinished
      | mark :: rest =>
        match letterEscape? mark with
        | some plain => prepend [plain] (stringContent rest)
        | none =>
          if mark ≠ 117 then .error .malformed
          else
            match rest with
            | a :: b :: c :: d :: rest =>
              match codeUnit? a b c d with
              | none => .error .malformed
              | some unit =>
                if 0xDC00 ≤ unit ∧ unit ≤ 0xDFFF then .error .malformed
                else if unit < 0xD800 ∨ 0xDBFF < unit then
                  prepend (Bytes.ofText (String.singleton (Char.ofNat unit))) (stringContent rest)
                else
                  match rest with
                  | [] => .error .unfinished
                  | [backslash] => if backslash = 92 then .error .unfinished else .error .malformed
                  | backslash :: mark :: rest =>
                    if backslash ≠ 92 ∨ mark ≠ 117 then .error .malformed
                    else
                      match rest with
                      | a :: b :: c :: d :: rest =>
                        match codeUnit? a b c d with
                        | none => .error .malformed
                        | some low =>
                          if low < 0xDC00 ∨ 0xDFFF < low then .error .malformed
                          else
                            prepend (Bytes.ofText (String.singleton (surrogatePair unit low)))
                              (stringContent rest)
                      | _ => .error .unfinished
            | _ => .error .unfinished
    else if byte.toNat < 0x20 then .error .malformed
    else prepend [byte] (stringContent rest)

/-- What follows a string whose opening quote has been read. Of its escapes only the
form counts, and its bytes need not be a text. -/
def behindString : Bytes → Except Fault Bytes
  | [] => .error .unfinished
  | byte :: rest =>
    if byte = 34 then .ok rest
    else if byte = 92 then
      match rest with
      | [] => .error .unfinished
      | mark :: rest =>
        if (letterEscape? mark).isSome then behindString rest
        else if mark ≠ 117 then .error .malformed
        else
          match rest with
          | a :: b :: c :: d :: rest =>
            if (codeUnit? a b c d).isSome then behindString rest else .error .malformed
          | _ => .error .unfinished
    else if byte.toNat < 0x20 then .error .malformed
    else behindString rest

/-- A string whose opening quote has been read; nothing of one that is passed over. -/
def stringToken (passing : Bool) : Reader String := fun bytes =>
  if passing then (behindString bytes).map fun rest => ("", rest)
  else do
    let (content, rest) ← stringContent bytes
    match Utf8.decode? content with
    | some text => .ok (text, rest)
    | none => .error .malformed

theorem dropBlanks_length (bytes : Bytes) : (dropBlanks bytes).length ≤ bytes.length :=
  (List.dropWhile_suffix _).length_le

theorem literal_length {value result : Json} {expected bytes rest : Bytes}
    (h : literal value expected bytes = .ok (result, rest)) : rest.length ≤ bytes.length := by
  induction expected generalizing bytes with
  | nil => cases h; exact Nat.le_refl _
  | cons e more ih =>
    cases bytes with
    | nil => cases h
    | cons b tail =>
      simp only [literal] at h
      split at h
      · have := ih h
        simp only [List.length_cons]
        omega
      · cases h

theorem map_eq_ok {α β : Type} {r : Except Fault α} {f : α → β} {b : β}
    (h : r.map f = .ok b) : ∃ a, r = .ok a ∧ f a = b := by
  cases r with
  | error e => cases h
  | ok a => exact ⟨a, rfl, Except.ok.inj h⟩

theorem bind_eq_ok {α β : Type} {r : Except Fault α} {f : α → Except Fault β} {b : β}
    (h : (r >>= f) = .ok b) : ∃ a, r = .ok a ∧ f a = .ok b := by
  cases r with
  | error e => cases h
  | ok a => exact ⟨a, rfl, h⟩

theorem digits1_length {bytes digits rest : Bytes} (h : digits1 bytes = .ok (digits, rest)) :
    rest.length ≤ bytes.length := by
  unfold digits1 at h
  split at h
  · cases h
  · split at h
    · cases h
      exact (List.dropWhile_suffix _).length_le
    · cases h

theorem fraction_length {bytes rest : Bytes} {digits : Option Bytes}
    (h : fraction bytes = .ok (digits, rest)) : rest.length ≤ bytes.length := by
  unfold fraction at h
  split at h
  · obtain ⟨⟨d, r⟩, hd, hf⟩ := map_eq_ok h
    cases hf
    have := digits1_length hd
    simp only [List.length_cons]
    omega
  · cases h
    exact Nat.le_refl _

theorem exponent_length {bytes rest : Bytes} {power : Option Int}
    (h : exponent bytes = .ok (power, rest)) : rest.length ≤ bytes.length := by
  unfold exponent at h
  split at h
  · split at h
    · split at h
      all_goals
        obtain ⟨⟨d, r⟩, hd, hf⟩ := map_eq_ok h
        cases hf
        have := digits1_length hd
        simp only [List.length_cons]
        omega
    · cases h
      exact Nat.le_refl _
  · cases h
    exact Nat.le_refl _

theorem wholePart_length {first : UInt8} {bytes rest : Bytes} {whole : Bytes}
    (h : wholePart first bytes = .ok (whole, rest)) : rest.length ≤ bytes.length := by
  unfold wholePart at h
  split at h
  · split at h
    · cases h
    · cases h; exact Nat.le_refl _
  · split at h
    · cases h
      exact (List.dropWhile_suffix _).length_le
    · cases h

theorem numberToken_length {passing negative : Bool} {first : UInt8} {value : Json}
    {bytes rest : Bytes} (h : numberToken passing negative first bytes = .ok (value, rest)) :
    rest.length ≤ bytes.length := by
  unfold numberToken at h
  obtain ⟨⟨whole, r1⟩, h1, h⟩ := bind_eq_ok h
  obtain ⟨⟨decimals, r2⟩, h2, h⟩ := bind_eq_ok h
  obtain ⟨⟨power, r3⟩, h3, h⟩ := bind_eq_ok h
  have l1 := wholePart_length h1
  have l2 := fraction_length h2
  have l3 := exponent_length h3
  cases hv : numberValue negative whole decimals power with
  | none =>
    cases passing with
    | false => simp [hv] at h
    | true =>
      simp only [hv, if_true, Except.ok.injEq, Prod.mk.injEq] at h
      obtain ⟨-, rfl⟩ := h
      omega
  | some v =>
    simp only [hv, Except.ok.injEq, Prod.mk.injEq] at h
    obtain ⟨-, rfl⟩ := h
    omega

theorem prepend_eq_ok {content result rest : Bytes} {following : Except Fault (Bytes × Bytes)}
    (h : prepend content following = .ok (result, rest)) :
    ∃ more, following = .ok (more, rest) := by
  obtain ⟨⟨more, r⟩, hm, hf⟩ := map_eq_ok h
  cases hf
  exact ⟨more, hm⟩

theorem stringContent_length {bytes content rest : Bytes}
    (h : stringContent bytes = .ok (content, rest)) : rest.length ≤ bytes.length := by
  fun_induction stringContent bytes generalizing content with
  | case1 => cases h
  | case2 => cases h; simp
  | case3 => cases h
  | case4 _ _ _ _ _ ih =>
    obtain ⟨more, hm⟩ := prepend_eq_ok h
    have := ih hm
    simp only [List.length_cons]
    omega
  | case5 => cases h
  | case6 => cases h
  | case7 => cases h
  | case8 _ _ _ _ _ _ _ _ _ _ _ _ _ ih =>
    obtain ⟨more, hm⟩ := prepend_eq_ok h
    have := ih hm
    simp only [List.length_cons]
    omega
  | case9 => cases h
  | case10 => cases h
  | case11 => cases h
  | case12 => cases h
  | case13 => cases h
  | case14 => cases h
  | case15 =>
    rename_i ih
    obtain ⟨more, hm⟩ := prepend_eq_ok h
    have := ih hm
    simp only [List.length_cons]
    omega
  | case16 => cases h
  | case17 => cases h
  | case18 => cases h
  | case19 _ _ _ _ _ ih =>
    obtain ⟨more, hm⟩ := prepend_eq_ok h
    have := ih hm
    simp only [List.length_cons]
    omega

theorem behindString_length {bytes rest : Bytes} (h : behindString bytes = .ok rest) :
    rest.length ≤ bytes.length := by
  fun_induction behindString bytes with
  | case1 => cases h
  | case2 => cases h; simp
  | case3 => cases h
  | case4 =>
    rename_i ih
    have := ih h
    simp only [List.length_cons]
    omega
  | case5 => cases h
  | case6 =>
    rename_i ih
    have := ih h
    simp only [List.length_cons]
    omega
  | case7 => cases h
  | case8 => cases h
  | case9 => cases h
  | case10 =>
    rename_i ih
    have := ih h
    simp only [List.length_cons]
    omega

theorem stringToken_length {passing : Bool} {bytes rest : Bytes} {text : String}
    (h : stringToken passing bytes = .ok (text, rest)) : rest.length ≤ bytes.length := by
  unfold stringToken at h
  cases passing with
  | true =>
    obtain ⟨behind, hb, hf⟩ := map_eq_ok h
    cases hf
    exact behindString_length hb
  | false =>
    obtain ⟨⟨content, mid⟩, hc, h⟩ := bind_eq_ok h
    cases hd : Utf8.decode? content with
    | none => simp [hd] at h
    | some s =>
      simp only [hd, Except.ok.injEq, Prod.mk.injEq] at h
      obtain ⟨-, rfl⟩ := h
      exact stringContent_length hc

end Provenance.Json
