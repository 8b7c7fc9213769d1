import Provenance.Cbor.Reader

/-!
Passing over one data item of any shape. Instead of recursion the walk keeps
counters: how many items are still owed, how many open containers still want
their break, and a stack of the counts that were set aside when an open
container began inside a counted one. A stray break counts as an item.
-/

namespace Provenance.Cbor

/-- Counts saturate at the largest sixty-four bit number. -/
def saturate (n : Nat) : Nat := min n (2 ^ 64 - 1)

/-- What the walk still owes. On the stack, a number is a count of items and
`none` is a container waiting for its break; the top comes first. -/
structure Owed where
  items : Nat
  breaks : Nat
  stack : List (Option Nat)
  deriving DecidableEq, Repr

namespace Owed

def start : Owed := ⟨1, 0, []⟩

/-- No counter runs, so the stack decides. -/
def idle (owed : Owed) : Bool := owed.items == 0 && owed.breaks == 0

def settled (owed : Owed) : Bool := owed.idle && owed.stack.isEmpty

def openCounted (owed : Owed) (n : Nat) : Owed :=
  if n = 0 then owed
  else if owed.idle then { owed with stack := some n :: owed.stack }
  else { owed with items := saturate (owed.items + n) }

def openUncounted (owed : Owed) : Owed :=
  if owed.idle then { owed with stack := none :: owed.stack }
  else if owed.items < 2 then { owed with breaks := saturate (owed.breaks + 1) }
  else
    ⟨0, 0, none :: some (owed.items - 1) :: (List.replicate owed.breaks none ++ owed.stack)⟩

def openContainer (owed : Owed) : Option Nat → Owed
  | some n => owed.openCounted n
  | none => owed.openUncounted

def takeBreak (owed : Owed) : Owed :=
  if owed.idle then
    match owed.stack with
    | none :: rest => { owed with stack := rest }
    | _ => owed
  else { owed with breaks := owed.breaks - 1 }

/-- Takes one from the count on top of the stack, finished counts removed. -/
def takeFromStack : List (Option Nat) → List (Option Nat)
  | some 0 :: rest => takeFromStack rest
  | some (n + 1) :: rest => some n :: rest
  | stack => stack

def completeItem (owed : Owed) : Owed :=
  if owed.idle then { owed with stack := takeFromStack owed.stack }
  else { owed with items := owed.items - 1 }

end Owed

/-- Passes over one string of definite length and of the given major type. A
text (major type three) has to be valid by itself. -/
def passDefinite (kind : Nat) (bytes : Bytes) : Except Fault Bytes :=
  if kind = 3 then (textString bytes).map Prod.snd else (definite kind bytes).map Prod.snd

theorem passDefinite_length {kind : Nat} {bytes rest : Bytes}
    (h : passDefinite kind bytes = .ok rest) : rest.length < bytes.length := by
  unfold passDefinite at h
  split at h
  · cases ht : textString bytes with
    | error e => simp [ht, Except.map] at h
    | ok r =>
      simp only [ht, Except.map, Except.ok.injEq] at h
      subst h
      exact textString_length ht
  · cases hd : definite kind bytes with
    | error e => simp [hd, Except.map] at h
    | ok r =>
      simp only [hd, Except.map, Except.ok.injEq] at h
      subst h
      exact definite_length hd

def passChunks (kind : Nat) (bytes : Bytes) : Except Fault Bytes :=
  match bytes with
  | [] => .error .endOfInput
  | head :: rest =>
    if head.toNat = 0xFF then .ok rest
    else
      match _h : passDefinite kind (head :: rest) with
      | .error fault => .error fault
      | .ok rest' => passChunks kind rest'
  termination_by bytes.length
  decreasing_by exact passDefinite_length _h

/-- Passes over a string of the given major type, in chunks or in one piece. -/
def passString (kind : Nat) (bytes : Bytes) : Except Fault Bytes :=
  match bytes with
  | [] => .error .endOfInput
  | head :: rest =>
    if major head = kind ∧ low head = openEnded then passChunks kind rest
    else passDefinite kind bytes

def passHead : Bytes → Except Fault Bytes
  | [] => .error .endOfInput
  | head :: rest => (argument (low head) rest).map Prod.snd

/-- Reads one element of the walk: a simple item, a string, the head of a
container, a tag or a break. A tag completes no item. -/
def element (owed : Owed) (bytes : Bytes) : Except Fault (Owed × Bytes) :=
  match bytes with
  | [] => .error .endOfInput
  | head :: rest =>
    let n := head.toNat
    if n ≤ 0x1B ∨ (0x20 ≤ n ∧ n ≤ 0x3B) ∨ (0xE0 ≤ n ∧ n ≤ 0xFB) then
      (passHead bytes).map (owed.completeItem, ·)
    else if 0x40 ≤ n ∧ n ≤ 0x5F then
      (passString 2 bytes).map (owed.completeItem, ·)
    else if 0x60 ≤ n ∧ n ≤ 0x7F then
      (passString 3 bytes).map (owed.completeItem, ·)
    else if 0x80 ≤ n ∧ n ≤ 0x9F then
      (container 4 bytes).map fun (count, rest) => ((owed.openContainer count).completeItem, rest)
    else if 0xA0 ≤ n ∧ n ≤ 0xBF then
      (container 5 bytes).map fun (count, rest) =>
        ((owed.openContainer (count.map fun k => saturate (2 * k))).completeItem, rest)
    else if 0xC0 ≤ n ∧ n ≤ 0xDB then
      (passHead bytes).map (owed, ·)
    else if n = 0xFF then
      .ok (owed.takeBreak.completeItem, rest)
    else .error (.unexpected (.unassigned head))

theorem passHead_length {bytes rest : Bytes} (h : passHead bytes = .ok rest) :
    rest.length < bytes.length := by
  cases bytes with
  | nil => cases h
  | cons head tail =>
    simp only [passHead] at h
    cases ha : argument (low head) tail with
    | error e => simp [ha, Except.map] at h
    | ok r =>
      simp only [ha, Except.map, Except.ok.injEq] at h
      subst h
      have := argument_length ha
      simp only [List.length_cons]
      omega

theorem passChunks_length {kind : Nat} {bytes rest : Bytes}
    (h : passChunks kind bytes = .ok rest) : rest.length < bytes.length := by
  fun_induction passChunks kind bytes with
  | case1 => cases h
  | case2 => cases h; simp
  | case3 => cases h
  | case4 head tail _ mid hm ih =>
    have h1 := passDefinite_length hm
    have h2 := ih h
    omega

theorem passString_length {kind : Nat} {bytes rest : Bytes}
    (h : passString kind bytes = .ok rest) : rest.length < bytes.length := by
  cases bytes with
  | nil => cases h
  | cons head tail =>
    simp only [passString] at h
    split at h
    · have := passChunks_length h
      simp only [List.length_cons]
      omega
    · exact passDefinite_length h

/-- Every element takes at least one byte. -/
theorem element_length {owed owed' : Owed} {bytes rest : Bytes}
    (h : element owed bytes = .ok (owed', rest)) : rest.length < bytes.length := by
  have lift {α : Type} {r : Except Fault α} {f : α → Owed × Bytes}
      (hr : r.map f = .ok (owed', rest)) : ∃ a, r = .ok a ∧ f a = (owed', rest) := by
    cases r with
    | error e => cases hr
    | ok a => exact ⟨a, rfl, Except.ok.inj hr⟩
  cases bytes with
  | nil => cases h
  | cons head tail =>
    simp only [element] at h
    split at h
    · obtain ⟨r, hr, hf⟩ := lift h
      cases hf
      exact passHead_length hr
    split at h
    · obtain ⟨r, hr, hf⟩ := lift h
      cases hf
      exact passString_length hr
    split at h
    · obtain ⟨r, hr, hf⟩ := lift h
      cases hf
      exact passString_length hr
    split at h
    · obtain ⟨r, hr, hf⟩ := lift h
      cases hf
      exact container_length hr
    split at h
    · obtain ⟨r, hr, hf⟩ := lift h
      cases hf
      exact container_length hr
    split at h
    · obtain ⟨r, hr, hf⟩ := lift h
      cases hf
      exact passHead_length hr
    split at h
    · cases h
      simp
    · cases h

/-- Reads elements until nothing is owed. -/
def settle (owed : Owed) (bytes : Bytes) : Except Fault Bytes :=
  if owed.settled then .ok bytes
  else
    match _h : element owed bytes with
    | .error fault => .error fault
    | .ok (owed', rest) => settle owed' rest
  termination_by bytes.length
  decreasing_by exact element_length _h

def skip (bytes : Bytes) : Except Fault Bytes := settle .start bytes

end Provenance.Cbor
