import Provenance.Shell.Class

/-!
Patterns for texts, and texts without the part that has a pattern.
-/

namespace Provenance.Shell

/-- The characters of a pattern, and whether each may stand for others. -/
abbrev Pattern := List (Char × Bool)

namespace Pattern

inductive Mark where
  | literal (c : Char)
  | one
  | any
  | set (members : CharSet)
  deriving DecidableEq, Repr

/-- A pattern in which each character that a backslash precedes stands for itself. -/
def resolved : Pattern → Pattern
  | ('\\', true) :: (c, _) :: rest => (c, false) :: resolved rest
  | entry :: rest => entry :: resolved rest
  | [] => []

/-- The set behind an opening bracket, and what follows it. A character that stands
for itself is one of the set. -/
def set? (pattern : Pattern) : Option (CharSet × Pattern) := do
  let (negated, inner) := match pattern with
    | ('!', true) :: inner => (true, inner)
    | inner => (false, inner)
  let text := inner.flatMap fun (c, special) => if special then [c] else ['\\', c]
  let (ranges, rest) ← CharSet.readRanges some (text.length + 1) true text
  -- what is left has as many characters as it had before, a backslash and the next being one
  let left := (rest.foldl (fun (count, escaped) c =>
    if c = '\\' && !escaped then (count, true) else (count + 1, false)) (0, false)).1
  some (⟨negated, ranges⟩, inner.drop (inner.length - left))

def marksOf : Nat → Pattern → List Mark
  | 0, _ => []
  | _, [] => []
  | fuel + 1, (c, special) :: rest =>
    match special, c with
    | true, '*' => .any :: marksOf fuel rest
    | true, '?' => .one :: marksOf fuel rest
    | true, '[' =>
      match set? rest with
      | some (members, rest) => .set members :: marksOf fuel rest
      | none => .literal '[' :: marksOf fuel rest
    | _, c => .literal c :: marksOf fuel rest

def marks (pattern : Pattern) : List Mark := marksOf (pattern.length + 1) (resolved pattern)

def Mark.admits : Mark → Char → Bool
  | .literal c, d => c = d
  | .one, _ => true
  | .any, _ => false
  | .set members, d => members.contains d

def rests (marks : List Mark) (texts : List Chars) : List Chars :=
  marks.foldl (fun texts mark =>
    match mark with
    | .any =>
      match texts with
      | [] => []
      | first :: _ =>
        -- the longest rest has the others among its own
        let longest := texts.foldl (fun a b => if a.length < b.length then b else a) first
        (List.range (longest.length + 1)).map longest.drop
    | mark => texts.filterMap fun
      | c :: rest => if mark.admits c then some rest else none
      | [] => none) texts

def fits (pattern : Pattern) (text : Chars) : Bool :=
  (rests (marks pattern) [text]).any List.isEmpty

/-- Whether a part of a pattern may stand for something else than itself. -/
def isOpen (pattern : Pattern) : Bool :=
  (marks pattern).any fun
    | .literal _ => false
    | _ => true

/-- A text without the part at its front, or at its end, that has a pattern: the
shortest or the longest such part. -/
def trim (atEnd longest : Bool) (pattern : Pattern) (text : Chars) : Chars :=
  let places := List.range (text.length + 1)
  let places := if longest != atEnd then places.reverse else places
  let part (place : Nat) : Chars := if atEnd then text.drop place else text.take place
  match places.find? fun place => fits pattern (part place) with
  | some place => if atEnd then text.take place else text.drop place
  | none => text

end Pattern

end Provenance.Shell
