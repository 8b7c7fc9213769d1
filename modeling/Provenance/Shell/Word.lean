import Provenance.Bytes

/-!
Scripts of the POSIX shell as data. The shell works on bytes, so a character of
its texts stands for one byte.
-/

namespace Provenance.Shell

abbrev Chars := List Char

namespace Chars

def ofBytes (bytes : Bytes) : Chars := bytes.map fun byte => Char.ofNat byte.toNat

def toBytes (text : Chars) : Bytes := text.map fun c => UInt8.ofNat c.toNat

def ofText (text : String) : Chars := ofBytes (Bytes.ofText text)

end Chars

/-- A part of a word. Quoted parts are not split into fields. -/
inductive Part where
  | literal (quoted : Bool) (text : Chars)
  | variable (quoted : Bool) (name : Chars)
  /-- A variable with a word for the case that it is unset, or set: `:-`, `-`,
  `:+`, `+`, `:=` or `=` come before the word. -/
  | alternative (quoted : Bool) (name : Chars) (operator : Chars) (word : Chars)
  | length (name : Chars)
  | substitution (quoted : Bool) (script : Chars)
  | arithmetic (quoted : Bool) (expression : Chars)
  deriving DecidableEq, Repr

abbrev Word := List Part

inductive RedirectKind where
  | read
  | write
  | append
  | readWrite
  | duplicate
  | document
  deriving DecidableEq, Repr

structure Redirect where
  descriptor : Nat
  kind : RedirectKind
  target : Word
  deriving DecidableEq, Repr

inductive Command where
  | simple (line : Nat) (assignments : List (Chars × Word)) (words : List Word)
    (redirects : List Redirect)
  | nothing
  | sequence (first second : Command)
  | both (first second : Command)
  | either (first second : Command)
  | negation (command : Command)
  | pipe (source target : Command)
  | aside (command : Command)
  | group (body : Command) (redirects : List Redirect)
  | subshell (body : Command) (redirects : List Redirect)
  | conditional (test yes no : Command)
  | loop (untilTrue : Bool) (test body : Command)
  | iteration (name : Chars) (words : Option (List Word)) (body : Command)
  | choice (word : Word) (shapes : List Word) (body next : Command)
  | define (name : Chars) (body : Command)
  | malformed (line : Nat) (text : String)
  deriving Repr

end Provenance.Shell
