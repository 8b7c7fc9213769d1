import Provenance.Shell.Class
import Provenance.Shell.Tools.Input

/-!
Putting characters in place of others, or leaving them out.
-/

namespace Provenance.Shell.Tools

/-- A part of a list of characters; one character may fill what is missing. -/
inductive Listed where
  | chars (chars : Chars)
  | filler (c : Char)
  deriving DecidableEq, Repr

/-- The characters that a set lists: by themselves, as ranges, by their class, or one
so many times. -/
def listed : Nat → Chars → List Listed
  | 0, _ => []
  | _, [] => []
  | fuel + 1, text =>
    let one : Chars → Char × Chars
      | '\\' :: c :: rest =>
        if isOctal c || (letterEscapes.lookup c).isSome then escape (c :: rest) else (c, rest)
      | c :: rest => (c, rest)
      | [] => ('\\', [])
    let plain (text : Chars) : List Listed :=
      let (first, rest) := one text
      match rest with
      | '-' :: d :: more =>
        let (last, rest) := one (d :: more)
        .chars ((List.range (last.toNat + 1 - first.toNat)).map
          fun n => Char.ofNat (first.toNat + n)) :: listed fuel rest
      | rest => .chars [first] :: listed fuel rest
    match text with
    | '[' :: ':' :: rest =>
      match Class.named? rest with
      | some (belongs, rest) => .chars (Class.everyByte.filter belongs) :: listed fuel rest
      | none => plain text
    | '[' :: inner =>
      let (c, rest) := one inner
      let digits := (rest.drop 1).takeWhile Ascii.isDigit
      match rest.head?, rest.drop (digits.length + 1) with
      | some '*', ']' :: rest =>
        let base := if digits.head? = some '0' then 8 else 10
        let count := Ascii.numberOf base digits
        (if count = 0 then .filler c else .chars (List.replicate count c)) :: listed fuel rest
      | _, _ => plain text
    | text => plain text

def setOf (length : Nat) (text : Chars) : Chars :=
  let parts := listed (text.length + 1) text
  let known := (parts.map fun
    | .chars chars => chars.length
    | .filler _ => 0).foldl (· + ·) 0
  (parts.map fun
    | .chars chars => chars
    | .filler c => List.replicate (length - known) c).flatten

/-- Puts in place of each character of one set its counterpart in another, whose
last character serves for all that are left over. -/
def replace (source target : Chars) (c : Char) : Char :=
  match source.reverse.idxOf? c with
  | some place => (target[source.length - 1 - place]?).getD (target.getLast?.getD c)
  | none => c

def squeeze (repeated : Chars) : Chars → Chars
  | c :: d :: rest =>
    if c = d && repeated.contains c then squeeze repeated (d :: rest)
    else c :: squeeze repeated (d :: rest)
  | rest => rest

/-- How many characters are written together while more may come. -/
def blockSize : Nat := 4096

def characterChange? (g : Given) : Option (Chars → Chars) :=
  let complement := g.has 'c' || g.has 'C'
  let ofFirst (set : Chars) : Chars :=
    let set := setOf 0 set
    if complement then Class.everyByte.filter fun c => !set.contains c else set
  match g.operands, g.has 'd', g.has 's' with
  | [first], true, false => some fun text =>
    let removed := ofFirst first
    text.filter fun c => !removed.contains c
  | [first, second], true, true => some fun text =>
    let removed := ofFirst first
    squeeze (setOf 0 second) (text.filter fun c => !removed.contains c)
  | [first], false, true => some (squeeze (ofFirst first))
  | [first, second], false, squeezes =>
    let source := ofFirst first
    let target := setOf source.length second
    let source := if g.has 't' then source.take target.length else source
    if target.isEmpty && !source.isEmpty then none
    else some fun text =>
      let text := text.map (replace source target)
      if squeezes then squeeze target text else text
  | _, _, _ => none

def tr (arguments : List Chars) : Run Unit := do
  let choices := [⟨'d', "delete", false⟩, ⟨'s', "squeeze-repeats", false⟩,
    ⟨'c', "complement", false⟩, ⟨'C', "", false⟩, ⟨'t', "truncate-set1", false⟩]
  match (split choices true (arguments.length + 1) arguments).bind characterChange? with
  | none => report "tr" "invalid operands" 1
  | some change =>
    let (text, stop) ← takeArrived
    let ahead := if stop.isSome then text.length % blockSize else 0
    say (change (text.take (text.length - ahead)))
    halt stop

end Provenance.Shell.Tools
