import Provenance.Json.Value

/-!
JSON as text, compact or indented. Strings escape the quote, the backslash and
the controls below the space; everything else stands for itself.
-/

namespace Provenance.Json

def fourDigits (n : Nat) : List Char :=
  let digits := Nat.toDigits 16 n
  List.replicate (4 - digits.length) '0' ++ digits

def escapeChar (c : Char) : List Char :=
  if c = '"' then ['\\', '"']
  else if c = '\\' then ['\\', '\\']
  else if c = '\x08' then ['\\', 'b']
  else if c = '\t' then ['\\', 't']
  else if c = '\n' then ['\\', 'n']
  else if c = '\x0c' then ['\\', 'f']
  else if c = '\r' then ['\\', 'r']
  else if c.toNat < 0x20 then ['\\', 'u'] ++ fourDigits c.toNat
  else [c]

def quote (text : String) : List Char := ['"'] ++ text.toList.flatMap escapeChar ++ ['"']

def numberText : JsonNumber → List Char
  | .int value => (toString value).toList
  | .float value => value.text.toList

def separate (separator : List Char) : List (List Char) → List Char
  | [] => []
  | [piece] => piece
  | piece :: rest => piece ++ separator ++ separate separator rest

mutual

def compactChars : Json → List Char
  | .null => "null".toList
  | .bool true => "true".toList
  | .bool false => "false".toList
  | .number value => numberText value
  | .string text => quote text
  | .array items => ['['] ++ separate [','] (compactItems items) ++ [']']
  | .object members => ['{'] ++ separate [','] (compactMembers members) ++ ['}']

def compactItems : List Json → List (List Char)
  | [] => []
  | item :: rest => item.compactChars :: compactItems rest

def compactMembers : List (String × Json) → List (List Char)
  | [] => []
  | (name, value) :: rest => (quote name ++ [':'] ++ value.compactChars) :: compactMembers rest

end

def compact (json : Json) : String := String.ofList json.compactChars

def lineStart (depth : Nat) : List Char := '\n' :: List.replicate (2 * depth) ' '

/-- Pieces on lines of their own between two brackets; nothing between them
when there is no piece. -/
def block (opening closing : Char) (depth : Nat) (pieces : List (List Char)) : List Char :=
  if pieces.isEmpty then [opening, closing]
  else
    [opening] ++ lineStart (depth + 1) ++ separate (',' :: lineStart (depth + 1)) pieces ++
      lineStart depth ++ [closing]

mutual

def indentedChars (depth : Nat) : Json → List Char
  | .array items => block '[' ']' depth (indentedItems (depth + 1) items)
  | .object members => block '{' '}' depth (indentedMembers (depth + 1) members)
  | .null => "null".toList
  | .bool true => "true".toList
  | .bool false => "false".toList
  | .number value => numberText value
  | .string text => quote text

def indentedItems (depth : Nat) : List Json → List (List Char)
  | [] => []
  | item :: rest => item.indentedChars depth :: indentedItems depth rest

def indentedMembers (depth : Nat) : List (String × Json) → List (List Char)
  | [] => []
  | (name, value) :: rest =>
    (quote name ++ [':', ' '] ++ value.indentedChars depth) :: indentedMembers depth rest

end

def indented (json : Json) : String := String.ofList (json.indentedChars 0)

end Provenance.Json
