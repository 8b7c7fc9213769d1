import Provenance.Number.Power
import Provenance.Text.Basic

/-!
Punycode: a label with characters beyond ASCII as an ASCII label. The ASCII
characters come first; then, in increasing order of the others, the distances
between the states in which they are put in, as numbers of variable length.
-/

namespace Provenance.Punycode

def base : Nat := 36

def digit (value : Nat) : Char :=
  if value < 26 then Char.ofNat (97 + value) else Char.ofNat (22 + value)

def digitValue? (c : Char) : Option Nat :=
  if 'a' ≤ c && c ≤ 'z' then some (c.toNat - 97)
  else if 'A' ≤ c && c ≤ 'Z' then some (c.toNat - 65)
  else if Ascii.isDigit c then some (c.toNat - 22)
  else none

/-- The least value of a digit that is not the last of its number. -/
def threshold (bias k : Nat) : Nat :=
  if k ≤ bias then 1 else if bias + 26 ≤ k then 26 else k - bias

theorem threshold_pos (bias k : Nat) : 0 < threshold bias k := by
  unfold threshold
  split
  · omega
  · split <;> omega

def scale (delta k : Nat) : Nat × Nat :=
  if 455 < delta then scale (delta / 35) (k + base) else (delta, k)
  termination_by delta
  decreasing_by omega

def adapt (delta count : Nat) (first : Bool) : Nat :=
  let delta := if first then delta / 700 else delta / 2
  let (delta, k) := scale (delta + delta / count) 0
  k + 36 * delta / (delta + 38)

def distance (bias k q : Nat) : List Char :=
  let t := threshold bias k
  if q < t then [digit q]
  else digit (t + (q - t) % (base - t)) :: distance bias (k + base) ((q - t) / (base - t))
  termination_by q
  decreasing_by
    have := threshold_pos bias k
    have := Nat.div_le_self (q - threshold bias k) (base - threshold bias k)
    omega

structure State where
  delta : Nat
  bias : Nat
  handled : Nat
  output : List Char

/-- Puts in every occurrence of the code point `n`, `initial` being the number
of ASCII characters. -/
def insertAll (n initial : Nat) (state : State) (label : List Char) : State :=
  label.foldl (fun s c =>
    if c.toNat < n then { s with delta := s.delta + 1 }
    else if c.toNat = n then
      { delta := 0
        bias := adapt s.delta (s.handled + 1) (s.handled = initial)
        handled := s.handled + 1
        output := s.output ++ distance s.bias base s.delta }
    else s) state

/-- Puts in the code points above `n` one after another; `rounds` bounds how many
different ones there are. -/
def encodeFrom (label : List Char) (initial n : Nat) (state : State) : Nat → State
  | 0 => state
  | rounds + 1 =>
    match (label.filter fun c => n ≤ c.toNat).map Char.toNat with
    | [] => state
    | first :: more =>
      let next := more.foldl min first
      let state := { state with delta := state.delta + (next - n) * (state.handled + 1) }
      let state := insertAll next initial state label
      encodeFrom label initial (next + 1) { state with delta := state.delta + 1 } rounds

def encode (label : List Char) : List Char :=
  let ascii := label.filter fun c => c.toNat < 0x80
  let start := if ascii.isEmpty then [] else ascii ++ ['-']
  (encodeFrom label ascii.length 0x80 ⟨0, 72, ascii.length, start⟩ label.length).output

def bound : Nat := 2 ^ 32

/-- Adds the number in front of a text to `i`, its next digit weighing `weight`. -/
def readNumber (bias k weight i : Nat) : List Char → Option (Nat × List Char)
  | [] => none
  | c :: rest => do
    let value ← digitValue? c
    let i := i + value * weight
    let t := threshold bias k
    if bound ≤ i then none
    else if value < t then some (i, rest)
    else if bound ≤ weight * (base - t) then none
    else readNumber bias (k + base) (weight * (base - t)) i rest

theorem readNumber_length {bias : Nat} {text rest : List Char} {k weight i j : Nat}
    (h : readNumber bias k weight i text = some (j, rest)) : rest.length < text.length := by
  induction text generalizing k weight i with
  | nil => simp [readNumber] at h
  | cons c more ih =>
    unfold readNumber at h
    cases hv : digitValue? c with
    | none => simp [hv] at h
    | some value =>
      simp only [hv, Option.bind_eq_bind, Option.bind_some] at h
      split at h
      · cases h
      · split at h
        · cases h
          simp
        · split at h
          · cases h
          · have := ih h
            simp only [List.length_cons]
            omega

def insertFrom (bias n i : Nat) (done : List Char) (text : List Char) : Option (List Char) :=
  match text with
  | [] => some done
  | c :: more =>
    match _h : readNumber bias base 1 i (c :: more) with
    | none => none
    | some (next, rest) =>
      let count := done.length + 1
      let point := n + next / count
      if Nat.isValidChar point then
        insertFrom (adapt (next - i) count (i = 0)) point (next % count + 1)
          (done.insertIdx (next % count) (Char.ofNat point)) rest
      else none
  termination_by text.length
  decreasing_by exact readNumber_length _h

/-- The label that an ASCII label stands for, unless it is malformed. -/
def decode? (text : List Char) : Option (List Char) :=
  let digits := (text.reverse.takeWhile (· ≠ '-')).reverse
  let ascii := text.take (text.length - digits.length - 1)
  if ascii.isEmpty then insertFrom 72 0x80 0 [] text
  else insertFrom 72 0x80 0 ascii digits

end Provenance.Punycode
