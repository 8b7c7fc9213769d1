import Provenance.Metadata

/-!
Metadata trailers inside code. A trailer is a record followed by its size as a
big-endian number of two bytes. A left-to-right scan cuts the code into parts,
each of them a trailer or a single byte of main code; stripping keeps the main
code and scans again until no trailer is left.
-/

namespace Provenance.Code

/-- How many bytes give the size of the record. -/
def suffixSize : Nat := 2

/-- The first bytes of the records that a scan looks at. -/
def isRecordHead (byte : UInt8) : Bool :=
  0xA1 ≤ byte.toNat && byte.toNat ≤ 0xA0 + Metadata.maxEntries

/-- The trailer at the front of the code: its record and its size in bytes. -/
def trailer? (code : Bytes) : Option (Metadata × Nat) :=
  match Metadata.read code with
  | .error _ => none
  | .ok (record, rest) =>
    let size := code.length - rest.length
    match rest with
    | high :: low :: _ =>
      if high.toNat * 256 + low.toNat = size then some (record, size + suffixSize) else none
    | _ => none

/-- The trailer at the front of the code, looked for only behind a byte that
can begin one. -/
def headedTrailer? (code : Bytes) : Option (Metadata × Nat) :=
  match code with
  | [] => none
  | head :: _ => if isRecordHead head then trailer? code else none

inductive Part where
  | main (byte : UInt8)
  | trailer (record : Metadata) (content : Bytes)
  deriving DecidableEq, Repr

namespace Part

def bytes : Part → Bytes
  | .main byte => [byte]
  | .trailer _ content => content

def kept : Part → Bytes
  | .main byte => [byte]
  | .trailer _ _ => []

def removed? : Part → Option Metadata
  | .main _ => none
  | .trailer record _ => some record

end Part

def parts (code : Bytes) : List Part :=
  match code with
  | [] => []
  | head :: rest =>
    match headedTrailer? (head :: rest) with
    | some (record, size + 1) =>
      .trailer record (head :: rest.take size) :: parts (rest.drop size)
    | _ => .main head :: parts rest
  termination_by code.length
  decreasing_by all_goals simp; try omega

theorem flatMap_bytes_parts (code : Bytes) : (parts code).flatMap Part.bytes = code := by
  fun_induction parts code with
  | case1 => rfl
  | case2 head rest record size _ ih =>
    simp only [List.flatMap_cons, Part.bytes, ih, List.cons_append, List.take_append_drop]
  | case3 head rest _ ih => simp only [List.flatMap_cons, Part.bytes, ih, List.singleton_append]

structure Trailer where
  start : Nat
  stop : Nat
  record : Metadata
  deriving DecidableEq, Repr

/-- The trailers among parts of which the first begins at `offset`. -/
def locate (offset : Nat) : List Part → List Trailer
  | [] => []
  | .main _ :: rest => locate (offset + 1) rest
  | .trailer record content :: rest =>
    ⟨offset, offset + content.length, record⟩ :: locate (offset + content.length) rest

/-- All trailers of the code, in order and without overlap. -/
def trailers (code : Bytes) : List Trailer := locate 0 (parts code)

def stripOnce (code : Bytes) : Bytes := (parts code).flatMap Part.kept

def removedOnce (code : Bytes) : List Metadata := (parts code).filterMap Part.removed?

theorem bytes_ne_nil {code : Bytes} {part : Part} (h : part ∈ parts code) :
    part.bytes ≠ [] := by
  fun_induction parts code with
  | case1 => cases h
  | case2 head rest record size _ ih =>
    rcases List.mem_cons.1 h with rfl | h
    · simp [Part.bytes]
    · exact ih h
  | case3 head rest _ ih =>
    rcases List.mem_cons.1 h with rfl | h
    · simp [Part.bytes]
    · exact ih h

/-- Every record that a pass removes takes at least one byte with it. -/
theorem stripOnce_length_add (code : Bytes) :
    (stripOnce code).length + (removedOnce code).length ≤ code.length := by
  have h (ps : List Part) (hne : ∀ p ∈ ps, p.bytes ≠ []) :
      (ps.flatMap Part.kept).length + (ps.filterMap Part.removed?).length ≤
        (ps.flatMap Part.bytes).length := by
    induction ps with
    | nil => simp
    | cons p ps ih =>
      have ih := ih fun q hq => hne q (List.mem_cons_of_mem p hq)
      have hp := List.length_pos_iff.2 (hne p List.mem_cons_self)
      cases p with
      | main byte =>
        simp only [List.flatMap_cons, Part.kept, Part.bytes, List.filterMap_cons, Part.removed?,
          List.length_append, List.length_singleton]
        omega
      | trailer record content =>
        simp only [List.flatMap_cons, Part.kept, Part.bytes, List.length_append, List.length_nil,
          List.filterMap_cons, Part.removed?, List.length_cons] at hp ⊢
        omega
  have := h (parts code) fun _ => bytes_ne_nil
  rwa [flatMap_bytes_parts] at this

/-- Strips pass by pass until a pass finds no trailer. The records come in the
order of their removal. -/
def split (code : Bytes) : Bytes × List Metadata :=
  match _h : removedOnce code with
  | [] => (code, [])
  | record :: records =>
    let (stripped, later) := split (stripOnce code)
    (stripped, record :: records ++ later)
  termination_by code.length
  decreasing_by
    have := stripOnce_length_add code
    rw [_h, List.length_cons] at this
    omega

/-- The code without any metadata trailer. -/
def strip (code : Bytes) : Bytes := (split code).1

def records (code : Bytes) : List Metadata := (split code).2

end Provenance.Code
