import Provenance.Json.Scanner

/-!
Reading JSON text. The reader is a machine with a stack: each open array or
object holds what has been read of it. Every move but the last takes a byte, so
the machine comes to a halt. A value may be nested as deep as a limit allows.

A reader may want a part of a text only. What it passes over has to have the form
of JSON, but may be nested to any depth, and hold numbers and strings without a
value.
-/

namespace Provenance.Json

inductive Interest where
  | whole
  | nothing
  | members (wanted : List (String × Interest))
  | each (item : Interest)

namespace Interest

def isNothing : Interest → Bool
  | .nothing => true
  | _ => false

def ofItem : Interest → Interest
  | .nothing => .nothing
  | .each item => item
  | _ => .whole

def ofMember (name : String) : Interest → Interest
  | .nothing => .nothing
  | .members wanted => (wanted.lookup name).getD .nothing
  | _ => .whole

end Interest

/-- An open array or object. Its items stand in reverse; an object also holds
the name of the member whose value comes next. -/
inductive Frame where
  | array (interest : Interest) (done : List Json)
  | object (interest : Interest) (done : List (String × Json)) (name : String)

/-- What the machine has to do next: read a value into the innermost frame, or
go on behind a complete value. -/
inductive Task where
  | want (interest : Interest)
  | have (value : Json)

structure Machine where
  task : Task
  frames : List Frame

/-- The name of a member with its colon, the opening quote being the next byte. -/
def memberName (passing : Bool) (bytes : Bytes) : Except Fault (String × Bytes) :=
  match bytes with
  | [] => .error .unfinished
  | byte :: rest =>
    if byte ≠ 34 then .error .malformed
    else do
      let (name, rest) ← stringToken passing rest
      match dropBlanks rest with
      | [] => .error .unfinished
      | byte :: rest => if byte = 58 then .ok (name, rest) else .error .malformed

def beginArray (interest : Interest) (frames : List Frame) (bytes : Bytes) :
    Except Fault (Machine × Bytes) :=
  match dropBlanks bytes with
  | [] => .error .unfinished
  | byte :: rest =>
    if byte = 93 then .ok (⟨.have (.array []), frames⟩, rest)
    else .ok (⟨.want interest.ofItem, .array interest [] :: frames⟩, byte :: rest)

def beginObject (interest : Interest) (frames : List Frame) (bytes : Bytes) :
    Except Fault (Machine × Bytes) :=
  match dropBlanks bytes with
  | [] => .error .unfinished
  | byte :: rest =>
    if byte = 125 then .ok (⟨.have (.object []), frames⟩, rest)
    else do
      let (name, rest) ← memberName interest.isNothing (byte :: rest)
      .ok (⟨.want (interest.ofMember name), .object interest [] name :: frames⟩, rest)

def beginValue (limit : Nat) (interest : Interest) (frames : List Frame) (bytes : Bytes) :
    Except Fault (Machine × Bytes) :=
  let passing := interest.isNothing
  match dropBlanks bytes with
  | [] => .error .unfinished
  | byte :: rest =>
    let complete (read : Except Fault (Json × Bytes)) : Except Fault (Machine × Bytes) :=
      read.map fun (value, rest) => (⟨.have value, frames⟩, rest)
    if byte = 123 then
      if passing || frames.length < limit then beginObject interest frames rest
      else .error .malformed
    else if byte = 91 then
      if passing || frames.length < limit then beginArray interest frames rest
      else .error .malformed
    else if byte = 34 then
      complete ((stringToken passing rest).map fun (text, rest) => (.string text, rest))
    else if byte = 110 then complete (literal .null [117, 108, 108] rest)
    else if byte = 116 then complete (literal (.bool true) [114, 117, 101] rest)
    else if byte = 102 then complete (literal (.bool false) [97, 108, 115, 101] rest)
    else if byte = 45 then
      match rest with
      | [] => .error .unfinished
      | first :: rest => complete (numberToken passing true first rest)
    else complete (numberToken passing false byte rest)

/-- Goes on behind a complete value of the innermost frame: to the next value
or out of the frame. -/
def continueFrame (value : Json) (frame : Frame) (frames : List Frame) (bytes : Bytes) :
    Except Fault (Machine × Bytes) :=
  match dropBlanks bytes with
  | [] => .error .unfinished
  | byte :: rest =>
    match frame with
    | .array interest done =>
      if byte = 93 then .ok (⟨.have (.array (value :: done).reverse), frames⟩, rest)
      else if byte = 44 then
        match dropBlanks rest with
        | [] => .error .unfinished
        | next :: rest =>
          if next = 93 then .error .malformed
          else
            .ok (⟨.want interest.ofItem, .array interest (value :: done) :: frames⟩, next :: rest)
      else .error .malformed
    | .object interest done name =>
      if byte = 125 then .ok (⟨.have (.object ((name, value) :: done).reverse), frames⟩, rest)
      else if byte = 44 then do
        let (next, rest) ← memberName interest.isNothing (dropBlanks rest)
        .ok (⟨.want (interest.ofMember next),
          .object interest ((name, value) :: done) next :: frames⟩, rest)
      else .error .malformed

theorem memberName_length {passing : Bool} {bytes rest : Bytes} {name : String}
    (h : memberName passing bytes = .ok (name, rest)) : rest.length < bytes.length := by
  unfold memberName at h
  split at h
  · cases h
  · split at h
    · cases h
    · obtain ⟨⟨text, mid⟩, hs, h⟩ := bind_eq_ok h
      have l1 := stringToken_length hs
      have l2 := dropBlanks_length mid
      cases hd : dropBlanks mid with
      | nil => simp [hd] at h
      | cons b r =>
        simp only [hd] at h l2
        split at h
        · cases h
          simp only [List.length_cons] at l2 ⊢
          omega
        · cases h

theorem beginArray_length {interest : Interest} {frames : List Frame} {bytes rest : Bytes}
    {m : Machine} (h : beginArray interest frames bytes = .ok (m, rest)) :
    rest.length ≤ bytes.length := by
  have l := dropBlanks_length bytes
  unfold beginArray at h
  split at h
  · cases h
  · rename_i hd
    rw [hd] at l
    split at h
    · cases h
      simp only [List.length_cons] at l
      omega
    · cases h
      exact l

theorem beginObject_length {interest : Interest} {frames : List Frame} {bytes rest : Bytes}
    {m : Machine} (h : beginObject interest frames bytes = .ok (m, rest)) :
    rest.length ≤ bytes.length := by
  have l := dropBlanks_length bytes
  unfold beginObject at h
  split at h
  · cases h
  · rename_i hd
    rw [hd] at l
    split at h
    · cases h
      simp only [List.length_cons] at l
      omega
    · obtain ⟨⟨name, mid⟩, hm, h⟩ := bind_eq_ok h
      cases h
      have := memberName_length hm
      omega

theorem beginValue_length {limit : Nat} {interest : Interest} {frames : List Frame}
    {bytes rest : Bytes} {m : Machine}
    (h : beginValue limit interest frames bytes = .ok (m, rest)) :
    rest.length < bytes.length := by
  have l := dropBlanks_length bytes
  unfold beginValue at h
  split at h
  · cases h
  · rename_i byte tail hd
    rw [hd, List.length_cons] at l
    suffices rest.length ≤ tail.length by omega
    simp only at h
    split at h
    · split at h
      · exact beginObject_length h
      · cases h
    split at h
    · split at h
      · exact beginArray_length h
      · cases h
    split at h
    · obtain ⟨⟨v, r⟩, hr, hf⟩ := map_eq_ok h
      cases hf
      obtain ⟨⟨s, r'⟩, hs, hf⟩ := map_eq_ok hr
      cases hf
      exact stringToken_length hs
    split at h
    · obtain ⟨⟨v, r⟩, hr, hf⟩ := map_eq_ok h
      cases hf
      exact literal_length hr
    split at h
    · obtain ⟨⟨v, r⟩, hr, hf⟩ := map_eq_ok h
      cases hf
      exact literal_length hr
    split at h
    · obtain ⟨⟨v, r⟩, hr, hf⟩ := map_eq_ok h
      cases hf
      exact literal_length hr
    split at h
    · split at h
      · cases h
      · obtain ⟨⟨v, r⟩, hr, hf⟩ := map_eq_ok h
        cases hf
        have := numberToken_length hr
        simp only [List.length_cons]
        omega
    · obtain ⟨⟨v, r⟩, hr, hf⟩ := map_eq_ok h
      cases hf
      exact numberToken_length hr

theorem continueFrame_length {value : Json} {frame : Frame} {frames : List Frame}
    {bytes rest : Bytes} {m : Machine}
    (h : continueFrame value frame frames bytes = .ok (m, rest)) :
    rest.length < bytes.length := by
  have l := dropBlanks_length bytes
  unfold continueFrame at h
  split at h
  · cases h
  · rename_i byte tail hd
    rw [hd, List.length_cons] at l
    suffices rest.length ≤ tail.length by omega
    have l' := dropBlanks_length tail
    split at h
    · split at h
      · cases h; exact Nat.le_refl _
      split at h
      · split at h
        · cases h
        · rename_i hn
          rw [hn] at l'
          split at h
          · cases h
          · cases h
            exact l'
      · cases h
    · split at h
      · cases h; exact Nat.le_refl _
      split at h
      · obtain ⟨⟨name, mid⟩, hm, h⟩ := bind_eq_ok h
        cases h
        have := memberName_length hm
        omega
      · cases h

/-- Runs the machine to the end of the outermost value. -/
def run (limit : Nat) (m : Machine) (bytes : Bytes) : Except Fault (Json × Bytes) :=
  match m with
  | ⟨.want interest, frames⟩ =>
    match _h : beginValue limit interest frames bytes with
    | .error fault => .error fault
    | .ok (m, rest) => run limit m rest
  | ⟨.have value, []⟩ => .ok (value, bytes)
  | ⟨.have value, frame :: frames⟩ =>
    match _h : continueFrame value frame frames bytes with
    | .error fault => .error fault
    | .ok (m, rest) => run limit m rest
  termination_by bytes.length
  decreasing_by
    · exact beginValue_length _h
    · exact continueFrame_length _h

def maxDepth : Nat := 127

/-- Reads what is wanted of the value at the front of the bytes, whatever follows
it. -/
def readFront (interest : Interest) (bytes : Bytes) : Except Fault (Json × Bytes) :=
  run maxDepth ⟨.want interest, []⟩ bytes

/-- Reads what is wanted of bytes that hold one value and blanks around it, the
members in the order of the text. -/
def readDocument (interest : Interest) (bytes : Bytes) : Except Fault Json := do
  let (value, rest) ← readFront interest bytes
  if (dropBlanks rest).isEmpty then .ok value else .error .malformed

def read (bytes : Bytes) : Except Fault Json :=
  (readDocument .whole bytes).map sorted

end Provenance.Json
