import Provenance.Shell.Pattern

/-!
The fields that an expanded word is split into. A field is a pattern, as it may stand
for the paths of files.
-/

namespace Provenance.Shell

/-- A piece of an expanded word: what is not quoted may be special in patterns, and
what comes of an expansion besides is split. -/
inductive Piece where
  | chars (splits special : Bool) (text : Chars)
  | boundary
  | absent
  deriving DecidableEq, Repr

namespace Piece

/-- A field that is being put together, if there is one yet, and whether a separator
that is no blank would only end the field before it. -/
structure Growing where
  field : Option Pattern
  closed : Bool

/-- The beginning of the first field. -/
def Growing.start : Growing := ⟨none, false⟩

def Growing.extend (g : Growing) (special : Bool) (text : Chars) : Growing :=
  ⟨some (g.field.getD [] ++ text.map (·, special)), false⟩

def isBlank (c : Char) : Bool := c = ' ' || c = '\t' || c = '\n'

/-- Splits a text at separators: the fields before the last separator, and what is being
put together after it. Blanks around another separator belong to it. -/
def splitText (separators : Chars) (special : Bool) : Nat → Growing → Chars →
    List Pattern × Growing
  | 0, g, _ => ([], g)
  | _, g, [] => ([], g)
  | fuel + 1, g, c :: rest =>
    if !separators.contains c then
      let text := (c :: rest).takeWhile fun c => !separators.contains c
      splitText separators special fuel (g.extend special text) ((c :: rest).drop text.length)
    else
      let (closed, next) : List Pattern × Growing :=
        match g.field, isBlank c with
        | some field, isBlank => ([field], ⟨none, isBlank⟩)
        | none, true => ([], g)
        | none, false => (if g.closed then [] else [[]], ⟨none, false⟩)
      let (fields, last) := splitText separators special fuel next rest
      (closed ++ fields, last)

def fields (separators : Chars) (g : Growing) : List Piece → List Pattern
  | [] => g.field.toList
  | .chars false special text :: rest => fields separators (g.extend special text) rest
  | .chars true special text :: rest =>
    let (closed, g) := splitText separators special (text.length + 1) g text
    closed ++ fields separators g rest
  | .boundary :: rest => g.field.toList ++ fields separators .start rest
  | .absent :: rest => fields separators g rest

def isVoid : Piece → Bool
  | .chars _ _ text => text.isEmpty
  | .absent => true
  | .boundary => false

/-- The fields of a word: none where it stands only for parameters and there
are none. -/
def fieldsOf (separators : Chars) (pieces : List Piece) : List Pattern :=
  if pieces.contains .absent && pieces.all isVoid then [] else fields separators .start pieces

def pattern (pieces : List Piece) : Pattern :=
  (pieces.map fun
    | .chars _ special text => text.map (·, special)
    | .boundary => [(' ', false)]
    | .absent => []).flatten

/-- All texts of an expanded word together. -/
def joined (pieces : List Piece) : Chars := (pattern pieces).map Prod.fst

def spread : Piece → Piece
  | .chars _ true text => .chars true true text
  | piece => piece

end Piece

end Provenance.Shell
