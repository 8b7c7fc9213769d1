import Provenance.Cbor.Kind
import Provenance.Text.Utf8

/-!
Readers for single data items. Each takes the bytes from the item onward and
returns the item's value with the bytes behind it, so the number of bytes an
item occupies is the difference of two lengths.
-/

namespace Provenance.Cbor

/-- The major type of a head: its three high bits. -/
def major (head : UInt8) : Nat := head.toNat / 32

def low (head : UInt8) : Nat := head.toNat % 32

def openEnded : Nat := 31

/-- Takes exactly `n` bytes. -/
def take (n : Nat) (bytes : Bytes) : Except Fault (Bytes × Bytes) :=
  match bytes.split? n with
  | some result => .ok result
  | none => .error .endOfInput

/-- The argument behind a head with the given low bits: the bits themselves
below twenty-four, else a big-endian number of one, two, four or eight bytes. -/
def argument (low : Nat) (rest : Bytes) : Except Fault (Nat × Bytes) :=
  if low < 24 then .ok (low, rest)
  else if low < 28 then do
    let (digits, rest) ← take (2 ^ (low - 24)) rest
    .ok (digits.bigEndian, rest)
  else .error (.unexpected (.unassigned (UInt8.ofNat low)))

/-- The failure of a reader that found another item than it wanted, having read
its head. -/
def mismatch {α : Type} (head : UInt8) (rest : Bytes) : Except Fault α :=
  match kindOf head (rest.drop 1) with
  | .ok kind => .error (.unexpected kind)
  | .error fault => .error fault

def definite (kind : Nat) : Bytes → Except Fault (Bytes × Bytes)
  | [] => .error .endOfInput
  | head :: rest =>
    if major head = kind ∧ low head ≠ openEnded then do
      let (n, rest) ← argument (low head) rest
      take n rest
    else mismatch head rest

def byteString : Bytes → Except Fault (Bytes × Bytes) := definite 2

def textString (bytes : Bytes) : Except Fault (String × Bytes) := do
  let (content, rest) ← definite 3 bytes
  match Utf8.decode? content with
  | some text => .ok (text, rest)
  | none => .error .invalidUtf8

def bool : Bytes → Except Fault (Bool × Bytes)
  | [] => .error .endOfInput
  | head :: rest =>
    if head.toNat = 0xF4 then .ok (false, rest)
    else if head.toNat = 0xF5 then .ok (true, rest)
    else mismatch head rest

/-- The head of an array or a map: its number of entries, or `none` when it
ends with a break. -/
def container (kind : Nat) : Bytes → Except Fault (Option Nat × Bytes)
  | [] => .error .endOfInput
  | head :: rest =>
    if major head = kind then
      if low head = openEnded then .ok (none, rest)
      else do
        let (n, rest) ← argument (low head) rest
        .ok (some n, rest)
    else mismatch head rest

def mapHead : Bytes → Except Fault (Option Nat × Bytes) := container 5

theorem take_eq_ok {n : Nat} {bytes taken rest : Bytes} (h : take n bytes = .ok (taken, rest)) :
    bytes = taken ++ rest ∧ taken.length = n := by
  unfold take at h
  split at h
  · rename_i result hs
    cases h
    exact Bytes.split?_eq_some_iff.1 hs
  · cases h

theorem argument_length {k n : Nat} {bytes rest : Bytes} (h : argument k bytes = .ok (n, rest)) :
    rest.length ≤ bytes.length := by
  unfold argument at h
  split at h
  · cases h; exact Nat.le_refl _
  · split at h
    · cases ht : take (2 ^ (k - 24)) bytes with
      | error e => simp [ht, bind, Except.bind] at h
      | ok r =>
        obtain ⟨digits, rest'⟩ := r
        simp only [ht, bind, Except.bind, Except.ok.injEq, Prod.mk.injEq] at h
        obtain ⟨-, rfl⟩ := h
        have := (take_eq_ok ht).1
        simp [this]
    · cases h

theorem mismatch_ne_ok {α : Type} {head : UInt8} {rest : Bytes} {a : α} :
    mismatch head rest ≠ .ok a := by
  unfold mismatch
  split <;> simp

theorem definite_length {kind : Nat} {bytes content rest : Bytes}
    (h : definite kind bytes = .ok (content, rest)) : rest.length < bytes.length := by
  cases bytes with
  | nil => cases h
  | cons head tail =>
    simp only [definite] at h
    split at h
    · cases ha : argument (low head) tail with
      | error e => simp [ha, bind, Except.bind] at h
      | ok r =>
        obtain ⟨n, mid⟩ := r
        simp only [ha, bind, Except.bind] at h
        have h1 := argument_length ha
        have h2 := congrArg List.length (take_eq_ok h).1
        simp only [List.length_append] at h2
        simp only [List.length_cons]
        omega
    · exact absurd h mismatch_ne_ok

theorem textString_length {bytes rest : Bytes} {text : String}
    (h : textString bytes = .ok (text, rest)) : rest.length < bytes.length := by
  unfold textString at h
  cases hd : definite 3 bytes with
  | error e => simp [hd, bind, Except.bind] at h
  | ok r =>
    obtain ⟨content, mid⟩ := r
    simp only [hd, bind, Except.bind] at h
    split at h
    · cases h
      exact definite_length hd
    · cases h

theorem container_length {kind : Nat} {bytes rest : Bytes} {n : Option Nat}
    (h : container kind bytes = .ok (n, rest)) : rest.length < bytes.length := by
  cases bytes with
  | nil => cases h
  | cons head tail =>
    simp only [container] at h
    split at h
    · split at h
      · cases h; simp
      · cases ha : argument (low head) tail with
        | error e => simp [ha, bind, Except.bind] at h
        | ok r =>
          obtain ⟨n, mid⟩ := r
          simp only [ha, bind, Except.bind, Except.ok.injEq, Prod.mk.injEq] at h
          obtain ⟨-, rfl⟩ := h
          have := argument_length ha
          simp only [List.length_cons]
          omega
    · exact absurd h mismatch_ne_ok

end Provenance.Cbor
