import Provenance.Shell.Word
import Provenance.Text.Basic

/-!
Classes of characters that have a name, and sets of characters in brackets.
-/

namespace Provenance.Shell

namespace Class

def isUpper (c : Char) : Bool := 'A' ≤ c && c ≤ 'Z'

def isLower (c : Char) : Bool := 'a' ≤ c && c ≤ 'z'

def isSpace (c : Char) : Bool := c = ' ' || ('\t' ≤ c && c ≤ '\x0d')

def isBlank (c : Char) : Bool := c = ' ' || c = '\t'

def isGraph (c : Char) : Bool := '!' ≤ c && c ≤ '~'

def isWord (c : Char) : Bool := Ascii.isAlphanumeric c || c = '_'

def all : List (String × (Char → Bool)) :=
  [("digit", Ascii.isDigit), ("alpha", Ascii.isLetter), ("alnum", Ascii.isAlphanumeric),
    ("xdigit", Ascii.isHexDigit), ("upper", isUpper), ("lower", isLower), ("space", isSpace),
    ("blank", isBlank), ("cntrl", fun c => c < ' ' || c = '\x7f'), ("graph", isGraph),
    ("print", fun c => c = ' ' || isGraph c),
    ("punct", fun c => isGraph c && !Ascii.isAlphanumeric c)]

def everyByte : Chars := (List.range 256).map Char.ofNat

def otherCase (c : Char) : Char :=
  if isUpper c then Char.ofNat (c.toNat + 32)
  else if isLower c then Char.ofNat (c.toNat - 32)
  else c

/-- The class at the front of a text after `[:`, and what follows its `:]`. -/
def named? (text : Chars) : Option ((Char → Bool) × Chars) :=
  let name := text.takeWhile Ascii.isLetter
  match text.drop name.length with
  | ':' :: ']' :: rest => (all.lookup (String.ofList name)).map (·, rest)
  | _ => none

end Class

/-- A part of a set of characters: those from one to another. -/
abbrev Range := Char × Char

structure CharSet where
  negated : Bool
  ranges : List Range
  deriving DecidableEq, Repr

namespace CharSet

def contains (s : CharSet) (c : Char) : Bool :=
  (s.ranges.any fun (a, b) => a ≤ c && c ≤ b) != s.negated

def rangesOf (belongs : Char → Bool) : List Range :=
  (Class.everyByte.filter belongs).map fun c => (c, c)

/-- Reads what stands in brackets up to the one that closes them, of which the first
character is never that one. Where `escapes` says so, a backslash takes the meaning
of the next character. -/
def readRanges (escapes : Char → Option Char) : Nat → Bool → Chars → Option (List Range × Chars)
  | 0, _, _ => none
  | fuel + 1, isFirst, text =>
    let one : Chars → Option (Char × Chars)
      | '\\' :: c :: rest =>
        match escapes c with
        | some c => some (c, rest)
        | none => some ('\\', c :: rest)
      | '[' :: '.' :: c :: '.' :: ']' :: rest => some (c, rest)
      | c :: rest => some (c, rest)
      | [] => none
    let more (ranges : List Range) (rest : Chars) : Option (List Range × Chars) :=
      (readRanges escapes fuel false rest).map fun (later, rest) => (ranges ++ later, rest)
    let single (text : Chars) : Option (List Range × Chars) := do
      let (a, rest) ← one text
      match rest with
      | '-' :: d :: rest' =>
        if d = ']' then more [(a, a)] rest
        else
          let (b, rest) ← one (d :: rest')
          more [(a, b)] rest
      | rest => more [(a, a)] rest
    match isFirst, text with
    | false, ']' :: rest => some ([], rest)
    | _, '[' :: ':' :: rest =>
      match Class.named? rest with
      | some (belongs, rest) => more (rangesOf belongs) rest
      | none => single text
    | _, '[' :: '=' :: c :: '=' :: ']' :: rest => more [(c, c)] rest
    | _, text => single text

end CharSet

end Provenance.Shell
