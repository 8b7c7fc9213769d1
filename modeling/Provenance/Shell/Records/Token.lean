import Provenance.Shell.Format

/-!
The tokens of programs that go through records.
-/

namespace Provenance.Shell.Records

inductive Token where
  | number (text : Chars)
  | text (text : Chars)
  | regex (text : Chars)
  | name (name : Chars)
  | function (name : Chars)
  | word (word : String)
  | tool (name : String)
  | mark (mark : String)
  | newline
  deriving DecidableEq, Repr

def words : List String :=
  ["BEGIN", "END", "function", "func", "if", "else", "while", "for", "do", "break", "continue",
    "next", "nextfile", "exit", "return", "delete", "in", "getline", "print", "printf"]

def tools : List String :=
  ["length", "substr", "index", "split", "sub", "gsub", "match", "sprintf", "sin", "cos",
    "atan2", "exp", "log", "sqrt", "int", "rand", "srand", "tolower", "toupper", "close",
    "fflush", "system"]

def marks : List String :=
  ["&&", "||", "++", "--", "+=", "-=", "*=", "/=", "%=", "^=", "==", "<=", ">=", "!=", "!~",
    ">>", "\x7b", "\x7d", "(", ")", "[", "]", ";", ",", "+", "-", "*", "/", "%", "^", "!", ">",
    "<", "|", "?", ":", "~", "$", "="]

/-- Whether a slash behind a token divides, and does not begin an expression. -/
def Token.endsOperand : Token → Bool
  | .number _ | .text _ | .name _ | .regex _ | .tool _ => true
  | .mark m => [")", "]", "++", "--", "$"].contains m
  | _ => false

def quoted : Nat → Chars → Option (Chars × Chars)
  | 0, _ => none
  | _, [] => none
  | _, '\x22' :: rest => some ([], rest)
  | _, '\n' :: _ => none
  | fuel + 1, '\\' :: '\n' :: rest => quoted fuel rest
  | fuel + 1, '\\' :: c :: rest =>
    if c = '\x22' || c = '/' then (quoted fuel rest).map fun (text, rest) => (c :: text, rest)
    else
      let (escaped, behind) := escape (c :: rest)
      (quoted fuel behind).map fun (text, rest) => (escaped :: text, rest)
  | fuel + 1, c :: rest => (quoted fuel rest).map fun (text, rest) => (c :: text, rest)

def slashed (inSet : Bool) : Chars → Option (Chars × Chars)
  | [] => none
  | '\n' :: _ => none
  | '\\' :: '/' :: rest => (slashed inSet rest).map fun (text, rest) => ('/' :: text, rest)
  | '\\' :: c :: rest =>
    (slashed inSet rest).map fun (text, rest) => ('\\' :: c :: text, rest)
  | c :: rest =>
    if c = '/' && !inSet then some ([], rest)
    else
      let inSet := if c = '[' then true else if c = ']' then false else inSet
      (slashed inSet rest).map fun (text, rest) => (c :: text, rest)

def numberLength (text : Chars) : Nat :=
  let whole := text.takeWhile Ascii.isDigit
  let rest := text.drop whole.length
  let part := match rest with
    | '.' :: rest => 1 + (rest.takeWhile Ascii.isDigit).length
    | _ => 0
  let exponent := match rest.drop part with
    | c :: sign :: rest =>
      let signed := sign = '-' || sign = '+'
      let digits := ((if signed then rest else sign :: rest).takeWhile Ascii.isDigit).length
      if Ascii.lower c = 'e' && digits ≠ 0 then digits + (if signed then 2 else 1) else 0
    | _ => 0
  whole.length + part + exponent

def isNamePart (c : Char) : Bool := Ascii.isAlphanumeric c || c = '_'

def Token.ofName (name rest : Chars) : Token :=
  let text := String.ofList name
  if words.contains text then .word text
  else if tools.contains text then .tool text
  else if rest.head? = some '(' then .function name
  else .name name

def tokens : Nat → Option Token → Chars → Option (List Token)
  | 0, _, _ => none
  | _, _, [] => some []
  | fuel + 1, before, c :: rest =>
    let add (token : Token) (rest : Chars) : Option (List Token) :=
      (tokens fuel (some token) rest).map (token :: ·)
    if c = ' ' || c = '\t' || c = '\x0d' then tokens fuel before rest
    else if c = '\n' then add .newline rest
    else if c = '#' then tokens fuel before (rest.dropWhile (· ≠ '\n'))
    else if c = '\\' then
      match rest with
      | '\n' :: rest => tokens fuel before rest
      | _ => none
    else if Ascii.isDigit c || (c = '.' && rest.head?.any Ascii.isDigit) then
      let length := numberLength (c :: rest)
      add (.number ((c :: rest).take length)) ((c :: rest).drop length)
    else if isNamePart c then
      let name := c :: rest.takeWhile isNamePart
      let rest := rest.dropWhile isNamePart
      add (.ofName name rest) rest
    else if c = '\x22' then do
      let (text, rest) ← quoted (rest.length + 1) rest
      add (.text text) rest
    else if c = '/' && !before.any Token.endsOperand then do
      let (text, rest) ← slashed false rest
      add (.regex text) rest
    else
      match marks.find? fun mark => mark.toList.isPrefixOf (c :: rest) with
      | some mark => add (.mark mark) ((c :: rest).drop mark.length)
      | none => none

end Provenance.Shell.Records
