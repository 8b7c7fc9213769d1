import Provenance.Shell.Word
import Provenance.Text.Basic

/-!
The tokens of a script: words, redirections and operators.
-/

namespace Provenance.Shell

inductive Token where
  | word (line : Nat) (word : Word)
  | redirect (descriptor : Nat) (kind : RedirectKind)
  | operator (text : String)
  | newline
  | malformed (line : Nat) (text : String)
  deriving DecidableEq, Repr

namespace Token

def isNameStart (c : Char) : Bool := Ascii.isLetter c || c = '_'

def isNamePart (c : Char) : Bool := Ascii.isAlphanumeric c || c = '_'

def isSpecialName (c : Char) : Bool := Ascii.isDigit c || "@*#?$!-".toList.contains c

def endsWord (c : Char) : Bool := " \t\n;&|()<>".toList.contains c

def untilQuote : Chars → Option (Chars × Chars)
  | [] => none
  | '\x27' :: rest => some ([], rest)
  | c :: rest => (untilQuote rest).map fun (text, rest) => (c :: text, rest)

/-- The text up to the parenthesis that closes it, so many being open inside, and what
follows it. -/
def untilParenthesis : Nat → Chars → Option (Chars × Chars)
  | _, [] => none
  | depth, c :: rest =>
    let more (depth : Nat) : Option (Chars × Chars) :=
      (untilParenthesis depth rest).map fun (text, rest) => (c :: text, rest)
    match c, depth with
    | '(', depth => more (depth + 1)
    | ')', 0 => some ([], rest)
    | ')', depth + 1 => more depth
    | _, depth => more depth

def untilBackquote : Chars → Option (Chars × Chars)
  | [] => none
  | '\x60' :: rest => some ([], rest)
  | '\\' :: c :: rest =>
    (untilBackquote rest).map fun (text, rest) =>
      (if "$`\\".toList.contains c then (c :: text, rest) else ('\\' :: c :: text, rest))
  | c :: rest => (untilBackquote rest).map fun (text, rest) => (c :: text, rest)

def document (stripTabs : Bool) (mark : Chars) : Nat → Chars → Chars × Chars
  | 0, text => ([], text)
  | fuel + 1, text =>
    if text.isEmpty then ([], [])
    else
      let line := text.takeWhile (· ≠ '\n')
      let rest := text.drop (line.length + 1)
      let line := if stripTabs then line.dropWhile (· = '\t') else line
      if line = mark then ([], rest)
      else
        let (later, rest) := document stripTabs mark fuel rest
        (line ++ '\n' :: later, rest)

/-- A text between single characters that open and close it, with those, and what follows
it. -/
def enclosed (opening : Chars) (inner : Option (Chars × Chars)) (closing : Char) :
    Option (Chars × Chars) :=
  inner.map fun (text, rest) => (opening ++ text ++ [closing], rest)

def untilTick : Chars → Option (Chars × Chars)
  | [] => none
  | '\x60' :: rest => some ([], rest)
  | '\\' :: c :: rest => (untilTick rest).map fun (text, rest) => ('\\' :: c :: text, rest)
  | c :: rest => (untilTick rest).map fun (text, rest) => (c :: text, rest)

def commandOpeners : List String :=
  ["do", "then", "else", "elif", "if", "while", "until", "!", "\x7b"]

structure Within where
  /-- How many choices by shape are open in each pair of parentheses, the innermost
  first. -/
  choices : List Nat
  atCommand : Bool
  atWord : Bool
  /-- The marks of the documents that begin on the next line, and whether tabs are left
  out of them. -/
  documents : List (Bool × Chars)

def documentMark? (text : Chars) : Option (Bool × Chars) :=
  let (strip, rest) := match text with
    | '-' :: rest => (true, rest)
    | rest => (false, rest)
  let rest := rest.dropWhile fun c => c = ' ' || c = '\t'
  let word := rest.takeWhile fun c => !endsWord c
  let mark := word.filter fun c => !"'\"\\".toList.contains c
  if mark.isEmpty then none else some (strip, mark)

mutual

def quotedUpTo : Nat → Chars → Option (Chars × Chars)
  | 0, _ => none
  | fuel + 1, text =>
    match text with
    | [] => none
    | '\x22' :: rest => some ([], rest)
    | text => do
      let (here, rest) ← unitAt fuel true text
      (quotedUpTo fuel rest).map fun (later, rest) => (here ++ later, rest)

def bracedUpTo : Nat → Bool → Chars → Option (Chars × Chars)
  | 0, _, _ => none
  | fuel + 1, quoted, text =>
    match text with
    | [] => none
    | '\x7d' :: rest => some ([], rest)
    | text => do
      let (here, rest) ← unitAt fuel quoted text
      (bracedUpTo fuel quoted rest).map fun (later, rest) => (here ++ later, rest)

/-- The character at the front with all that belongs to it, and what follows that. Between
double quotes a single one is like any other character. -/
def unitAt : Nat → Bool → Chars → Option (Chars × Chars)
  | 0, _, _ => none
  | fuel + 1, quoted, text =>
    match text with
    | [] => none
    | '\\' :: c :: rest => some (['\\', c], rest)
    | '\x22' :: rest => enclosed ['\x22'] (quotedUpTo fuel rest) '\x22'
    | '\x60' :: rest => enclosed ['\x60'] (untilTick rest) '\x60'
    | '$' :: '(' :: rest =>
      enclosed ['$', '('] (scriptUpTo fuel ⟨[0], true, true, []⟩ rest) ')'
    | '$' :: '\x7b' :: rest => enclosed ['$', '\x7b'] (bracedUpTo fuel quoted rest) '\x7d'
    | c :: rest =>
      if c = '\x27' && !quoted then enclosed ['\x27'] (untilQuote rest) '\x27'
      else some ([c], rest)

def scriptUpTo : Nat → Within → Chars → Option (Chars × Chars)
  | 0, _, _ => none
  | fuel + 1, w, text =>
    let go (w : Within) (here rest : Chars) : Option (Chars × Chars) :=
      (scriptUpTo fuel w rest).map fun (later, rest) => (here ++ later, rest)
    let inWord : Within := { w with atCommand := false, atWord := false }
    let atStart : Within := { w with atCommand := true, atWord := true }
    match text with
    | [] => none
    | '(' :: rest => go { atStart with choices := 0 :: w.choices } ['('] rest
    | ')' :: rest =>
      match w.choices with
      | 0 :: outer =>
        if outer.isEmpty then some ([], rest) else go { atStart with choices := outer } [')'] rest
      | _ => go atStart [')'] rest
    | '\n' :: rest =>
      let after := w.documents.foldl (fun rest (strip, mark) =>
        (document strip mark (rest.length + 1) rest).2) rest
      go { atStart with documents := [] } ('\n' :: rest.take (rest.length - after.length)) after
    | '<' :: '<' :: rest =>
      go { inWord with documents := w.documents ++ (documentMark? rest).toList } ['<', '<'] rest
    | c :: rest =>
      if ";&|".toList.contains c then go atStart [c] rest
      else if c = ' ' || c = '\t' then go { w with atWord := true } [c] rest
      else if c = '#' && w.atWord then
        let comment := text.takeWhile (· ≠ '\n')
        go w comment (text.drop comment.length)
      else
        let isPlain (c : Char) : Bool := !endsWord c && !"'\"\\$\x60".toList.contains c
        let word := if w.atWord then text.takeWhile isPlain else []
        if word.isEmpty then do
          let (here, rest) ← unitAt fuel false text
          go inWord here rest
        else
          let behind := text.drop word.length
          let isCommand := w.atCommand && behind.head?.all endsWord
          let after : Within := match isCommand, String.ofList word, w.choices with
            | true, "case", n :: outer => { inWord with choices := (n + 1) :: outer }
            | true, "esac", n :: outer => { inWord with choices := (n - 1) :: outer }
            | true, name, _ => if commandOpeners.contains name then atStart else inWord
            | false, _, _ => inWord
          go after word behind

end

def scriptAt (text : Chars) : Option (Chars × Chars) :=
  scriptUpTo (2 * text.length + 2) ⟨[0], true, true, []⟩ text

def expressionAt (text : Chars) : Option (Chars × Chars) := do
  let (expression, rest) ← untilParenthesis 0 text
  match rest with
  | ')' :: rest => some (expression, rest)
  | _ => none

def dollar (quoted : Bool) : Chars → Option (Part × Chars)
  | '(' :: rest =>
    let whole := match rest with
      | '(' :: inner => expressionAt inner
      | _ => none
    match whole with
    | some (expression, rest) => some (.arithmetic quoted expression, rest)
    | none => (scriptAt rest).map fun (script, rest) => (.substitution quoted script, rest)
  | '\x7b' :: rest =>
    (bracedUpTo (2 * rest.length + 2) quoted rest).map fun (inner, rest) =>
      match inner with
      | '#' :: name@(_ :: _) => (.length name, rest)
      | first :: more =>
        let (name, more) :=
          if isSpecialName first then ([first], more)
          else ((first :: more).takeWhile isNamePart, (first :: more).dropWhile isNamePart)
        match more with
        | [] => (.variable quoted name, rest)
        | ':' :: mark :: other => (.alternative quoted name [':', mark] other, rest)
        | mark :: other => (.alternative quoted name [mark] other, rest)
      | [] => (.literal quoted "$\x7b\x7d".toList, rest)
  | c :: rest =>
    if isSpecialName c then some (.variable quoted [c], rest)
    else if isNameStart c then
      some (.variable quoted ((c :: rest).takeWhile isNamePart), (c :: rest).dropWhile isNamePart)
    else some (.literal quoted ['$'], c :: rest)
  | [] => some (.literal quoted ['$'], [])

/-- Where text stands that is quoted. Double quotes end it, or stand for themselves, or
for nothing. -/
inductive Place where
  | quotes
  | document
  | braces
  deriving DecidableEq

def quotedParts (place : Place) : Nat → Chars → Option (Word × Chars)
  | 0, _ => none
  | _, [] => if place = .quotes then none else some ([], [])
  | fuel + 1, c :: rest =>
    let more (part : Part) (rest : Chars) : Option (Word × Chars) :=
      (quotedParts place fuel rest).map fun (parts, rest) => (part :: parts, rest)
    match c, rest with
    | '\x22', rest =>
      match place with
      | .quotes => some ([], rest)
      | .document => more (.literal true ['\x22']) rest
      | .braces => quotedParts place fuel rest
    | '\\', '\n' :: rest => quotedParts place fuel rest
    | '\\', d :: rest =>
      let kept := if place = .document then "$`\\" else "$`\"\\\x7d"
      if kept.toList.contains d && !(place = .quotes && d = '\x7d') then
        more (.literal true [d]) rest
      else more (.literal true ['\\', d]) rest
    | '$', rest => do
      let (part, rest) ← dollar true rest
      more part rest
    | '\x60', rest => do
      let (script, rest) ← untilBackquote rest
      more (.substitution true script) rest
    | c, rest => more (.literal true [c]) rest

def joinLiterals : Word → Word
  | .literal quoted a :: rest =>
    match joinLiterals rest with
    | .literal other b :: rest =>
      if quoted = other then .literal quoted (a ++ b) :: rest
      else .literal quoted a :: .literal other b :: rest
    | rest => .literal quoted a :: rest
  | part :: rest => part :: joinLiterals rest
  | [] => []

def quotedWord (place : Place) (text : Chars) : Word :=
  ((quotedParts place (text.length + 1) text).map fun found => joinLiterals found.1).getD
    [.literal true text]

def wordUpTo (ends : Char → Bool) : Nat → Chars → Option (Word × Chars)
  | 0, _ => none
  | _, [] => some ([], [])
  | fuel + 1, c :: rest =>
    let more (parts : Word) (rest : Chars) : Option (Word × Chars) :=
      (wordUpTo ends fuel rest).map fun (later, rest) => (parts ++ later, rest)
    match c, rest with
    | '\x27', rest => do
      let (text, rest) ← untilQuote rest
      more [.literal true text] rest
    | '\x22', rest => do
      let (parts, rest) ← quotedParts .quotes fuel rest
      more (.literal true [] :: parts) rest
    | '\\', '\n' :: rest => wordUpTo ends fuel rest
    | '\\', d :: rest => more [.literal true [d]] rest
    | '$', rest => do
      let (part, rest) ← dollar false rest
      more [part] rest
    | '\x60', rest => do
      let (script, rest) ← untilBackquote rest
      more [.substitution false script] rest
    | c, rest =>
      if ends c then some ([], c :: rest) else more [.literal false [c]] rest

def wordAt (text : Chars) : Option (Word × Chars) := wordUpTo endsWord (text.length + 1) text

def wholeWord (text : Chars) : Word :=
  ((wordUpTo (fun _ => false) (text.length + 1) text).map fun found => joinLiterals found.1).getD
    [.literal true text]

/-- The text of a word without expansions, and whether any of it is quoted. -/
def plain? (word : Word) : Option (Chars × Bool) :=
  word.foldrM (fun part (text, quoted) =>
    match part with
    | .literal q more => some (more ++ text, quoted || q)
    | _ => none) ([], false)

/-- Cuts a document out of the text behind its operator: its content, and the
text without it. -/
def takeDocument (stripTabs : Bool) (text : Chars) : Option (Word × Chars) := do
  let (mark, rest) ← wordAt (text.dropWhile fun c => c = ' ' || c = '\t')
  let (mark, quoted) ← plain? mark
  let line := rest.takeWhile (· ≠ '\n')
  let (content, after) := document stripTabs mark (rest.length + 1) (rest.drop (line.length + 1))
  let word := if quoted then [.literal true content] else quotedWord .document content
  some (word, line ++ '\n' :: after)

def operators : List String := ["&&", "||", ";;", ";", "&", "|", "(", ")"]

def redirections : List (String × RedirectKind × Nat) :=
  [(">>", .append, 1), (">&", .duplicate, 1), (">|", .write, 1), (">", .write, 1),
    ("<&", .duplicate, 0), ("<>", .readWrite, 0), ("<", .read, 0)]

def after? (text : String) (chars : Chars) : Option Chars :=
  if text.toList.isPrefixOf chars then some (chars.drop text.length) else none

def operator? (chars : Chars) : Option (String × Chars) :=
  operators.findSome? fun text => (after? text chars).map (text, ·)

def redirection? (chars : Chars) : Option ((RedirectKind × Nat) × Chars) :=
  redirections.findSome? fun (text, kind) => (after? text chars).map (kind, ·)

def scan : Nat → Nat → Chars → List Token
  | 0, _, _ => []
  | _, _, [] => []
  | fuel + 1, line, text@(c :: rest) =>
    if c = '\n' then .newline :: scan fuel (line + 1) rest
    else if c = ' ' || c = '\t' then scan fuel line rest
    else if c = '#' then scan fuel line (text.dropWhile (· ≠ '\n'))
    else
      let digits := text.takeWhile Ascii.isDigit
      let behind := text.drop digits.length
      let given (usual : Nat) : Nat :=
        if digits.isEmpty then usual else Ascii.numberOf 10 digits
      match after? "<<-" behind, after? "<<" behind, redirection? behind, operator? text with
      | some rest, _, _, _ | none, some rest, _, _ =>
        match takeDocument (after? "<<-" behind).isSome rest with
        | some (content, rest) =>
          .redirect (given 0) .document :: .word line content :: scan fuel line rest
        | none => [.malformed line "Syntax error: Unterminated quoted string"]
      | none, none, some ((kind, usual), rest), _ =>
        .redirect (given usual) kind :: scan fuel line rest
      | none, none, none, some (text, rest) => .operator text :: scan fuel line rest
      | none, none, none, none =>
        match wordAt text with
        | none => [.malformed line "Syntax error: Unterminated quoted string"]
        | some (parts, rest) =>
          let crossed := ((text.take (text.length - rest.length)).filter (· = '\n')).length
          let later := scan fuel (line + crossed) rest
          if parts.isEmpty then later else .word line (joinLiterals parts) :: later

def ofScript (script : Chars) : List Token := scan (script.length + 1) 1 script

end Token

end Provenance.Shell
