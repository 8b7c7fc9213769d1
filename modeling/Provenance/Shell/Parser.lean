import Provenance.Shell.Token

/-!
Commands from tokens. A script is read line by line, so the lines before a
malformed one are commands all the same.
-/

namespace Provenance.Shell.Parser

abbrev Fault := Nat × String

abbrev Parsed := Command × List Token

def closers : List String := ["then", "elif", "else", "fi", "do", "done", "esac", "\x7d"]

def bare? : Token → Option String
  | .word _ [.literal false text] => some (String.ofList text)
  | _ => none

def describe : List Token → Fault
  | [] => (0, "Syntax error: end of file unexpected")
  | .malformed line text :: _ => (line, text)
  | .newline :: _ => (0, "Syntax error: newline unexpected")
  | .operator text :: _ => (0, "Syntax error: \"" ++ text ++ "\" unexpected")
  | .redirect _ _ :: _ => (0, "Syntax error: redirection unexpected")
  | token@(.word line _) :: _ =>
    match bare? token with
    | some text => (line, "Syntax error: \"" ++ text ++ "\" unexpected")
    | none => (line, "Syntax error: word unexpected")

def isNewline : Token → Bool
  | .newline => true
  | _ => false

def skipNewlines (tokens : List Token) : List Token := tokens.dropWhile isNewline

/-- Whether a command can begin with the first token. -/
def begins : List Token → Bool
  | [] => false
  | .newline :: _ => false
  | .operator text :: _ => text = "("
  | token :: _ => !(bare? token).any closers.contains

def expect (text : String) (tokens : List Token) : Except Fault (List Token) :=
  match tokens with
  | token :: rest => if bare? token = some text then .ok rest else .error (describe tokens)
  | [] => .error (describe [])

def expectOperator (text : String) (tokens : List Token) : Except Fault (List Token) :=
  match tokens with
  | .operator other :: rest => if other = text then .ok rest else .error (describe tokens)
  | _ => .error (describe tokens)

def redirects : List Token → List Redirect × List Token
  | .redirect descriptor kind :: .word _ target :: rest =>
    let (later, rest) := redirects rest
    (⟨descriptor, kind, target⟩ :: later, rest)
  | tokens => ([], tokens)

def words : List Token → List Word × List Token
  | .word _ word :: rest =>
    let (later, rest) := words rest
    (word :: later, rest)
  | tokens => ([], tokens)

def assignment? : Word → Option (Chars × Word)
  | .literal false text :: rest =>
    let name := text.takeWhile Token.isNamePart
    match text.drop name.length, name with
    | '=' :: value, first :: _ =>
      if Token.isNameStart first then
        some (name, if value.isEmpty then rest else .literal false value :: rest)
      else none
    | _, _ => none
  | _ => none

def simpleParts : List Token → List Word × List Redirect × List Token
  | .word _ word :: rest =>
    let (words, redirects, rest) := simpleParts rest
    (word :: words, redirects, rest)
  | .redirect descriptor kind :: .word _ target :: rest =>
    let (words, redirects, rest) := simpleParts rest
    (words, ⟨descriptor, kind, target⟩ :: redirects, rest)
  | tokens => ([], [], tokens)

def lineOf : List Token → Nat
  | .word line _ :: _ => line
  | _ :: rest => lineOf rest
  | [] => 0

def splitAssignments : List Word → List (Chars × Word) × List Word
  | [] => ([], [])
  | word :: rest =>
    match assignment? word with
    | some assigned =>
      let (later, rest) := splitAssignments rest
      (assigned :: later, rest)
    | none => ([], word :: rest)

def simple (tokens : List Token) : Except Fault Parsed :=
  let (words, redirects, rest) := simpleParts tokens
  let (assignments, words) := splitAssignments words
  match rest with
  | .malformed line text :: _ => .error (line, text)
  | .redirect _ _ :: rest => .error (describe rest)
  | _ =>
    if words.isEmpty && redirects.isEmpty && assignments.isEmpty then .error (describe tokens)
    else .ok (.simple (lineOf tokens) assignments words redirects, rest)

mutual

/-- Commands one after the other, up to what cannot begin one. -/
def list (oneLine : Bool) : Nat → List Token → Except Fault Parsed
  | 0, tokens => .error (describe tokens)
  | fuel + 1, tokens => do
    let tokens := if oneLine then tokens else skipNewlines tokens
    if !begins tokens then .ok (.nothing, tokens)
    else
      let (first, rest) ← chain fuel tokens
      let more (first : Command) (rest : List Token) : Except Fault Parsed := do
        let (second, rest) ← list oneLine fuel rest
        .ok (.sequence first second, rest)
      match rest with
      | .operator ";" :: rest => more first rest
      | .operator "&" :: rest => more (.aside first) rest
      | .newline :: after => if oneLine then .ok (first, rest) else more first after
      | _ => .ok (first, rest)

/-- Pipelines that depend on the ones before them. -/
def chain : Nat → List Token → Except Fault Parsed
  | 0, tokens => .error (describe tokens)
  | fuel + 1, tokens => do
    let (first, rest) ← pipeline fuel tokens
    chainRest fuel first rest

def chainRest : Nat → Command → List Token → Except Fault Parsed
  | 0, _, tokens => .error (describe tokens)
  | fuel + 1, first, tokens =>
    match tokens with
    | .operator "&&" :: rest => do
      let (second, rest) ← pipeline fuel (skipNewlines rest)
      chainRest fuel (.both first second) rest
    | .operator "||" :: rest => do
      let (second, rest) ← pipeline fuel (skipNewlines rest)
      chainRest fuel (.either first second) rest
    | _ => .ok (first, tokens)

def pipeline : Nat → List Token → Except Fault Parsed
  | 0, tokens => .error (describe tokens)
  | fuel + 1, tokens => do
    match tokens with
    | token :: rest =>
      if bare? token = some "!" then
        let (command, rest) ← pipeline fuel rest
        .ok (.negation command, rest)
      else
        let (first, rest) ← command fuel tokens
        pipeRest fuel first rest
    | [] => .error (describe [])

def pipeRest : Nat → Command → List Token → Except Fault Parsed
  | 0, _, tokens => .error (describe tokens)
  | fuel + 1, source, tokens =>
    match tokens with
    | .operator "|" :: rest => do
      let (target, rest) ← command fuel (skipNewlines rest)
      pipeRest fuel (.pipe source target) rest
    | _ => .ok (source, tokens)

def command : Nat → List Token → Except Fault Parsed
  | 0, tokens => .error (describe tokens)
  | fuel + 1, tokens => do
    let grouped (body : Command) (rest : List Token) : Except Fault Parsed :=
      let (redirects, rest) := redirects rest
      .ok (if redirects.isEmpty then body else .group body redirects, rest)
    match tokens with
    | .operator "(" :: rest =>
      let (body, rest) ← list false fuel rest
      let rest ← expectOperator ")" rest
      let (redirects, rest) := redirects rest
      .ok (.subshell body redirects, rest)
    | token :: rest =>
      match bare? token, rest with
      | some "\x7b", _ =>
        let (body, rest) ← list false fuel rest
        let rest ← expect "\x7d" rest
        let (redirects, rest) := redirects rest
        .ok (.group body redirects, rest)
      | some "if", _ =>
        let (body, rest) ← branches fuel rest
        grouped body rest
      | some "while", _ =>
        let (body, rest) ← loop false fuel rest
        grouped body rest
      | some "until", _ =>
        let (body, rest) ← loop true fuel rest
        grouped body rest
      | some "for", .word _ [.literal false name] :: rest =>
        let rest := skipNewlines rest
        let (items, rest) := match rest with
          | token :: more =>
            if bare? token = some "in" then
              let (items, rest) := words more
              (some items, rest)
            else (none, rest)
          | [] => (none, rest)
        let rest := match rest with
          | .operator ";" :: rest => rest
          | rest => rest
        let rest ← expect "do" (skipNewlines rest)
        let (body, rest) ← list false fuel rest
        let rest ← expect "done" rest
        grouped (.iteration name items body) rest
      | some "case", .word _ word :: rest =>
        let rest ← expect "in" (skipNewlines rest)
        let (body, rest) ← choices fuel word (skipNewlines rest)
        grouped body rest
      | some name, .operator "(" :: .operator ")" :: rest =>
        let (body, rest) ← command fuel (skipNewlines rest)
        .ok (.define name.toList body, rest)
      | some text, _ =>
        if closers.contains text then .error (describe tokens) else simple tokens
      | none, _ => simple tokens
    | [] => .error (describe [])

def branches : Nat → List Token → Except Fault Parsed
  | 0, tokens => .error (describe tokens)
  | fuel + 1, tokens => do
    let (test, rest) ← list false fuel tokens
    let rest ← expect "then" rest
    let (yes, rest) ← list false fuel rest
    match rest with
    | token :: rest' =>
      match bare? token with
      | some "fi" => .ok (.conditional test yes .nothing, rest')
      | some "else" =>
        let (no, rest) ← list false fuel rest'
        let rest ← expect "fi" rest
        .ok (.conditional test yes no, rest)
      | some "elif" =>
        let (no, rest) ← branches fuel rest'
        .ok (.conditional test yes no, rest)
      | _ => .error (describe rest)
    | [] => .error (describe [])

/-- What follows `while` or `until`. -/
def loop (untilTrue : Bool) : Nat → List Token → Except Fault Parsed
  | 0, tokens => .error (describe tokens)
  | fuel + 1, tokens => do
    let (test, rest) ← list false fuel tokens
    let rest ← expect "do" rest
    let (body, rest) ← list false fuel rest
    let rest ← expect "done" rest
    .ok (.loop untilTrue test body, rest)

def choices : Nat → Word → List Token → Except Fault Parsed
  | 0, _, tokens => .error (describe tokens)
  | fuel + 1, word, tokens => do
    match tokens with
    | [] => .error (describe [])
    | token :: rest =>
      if bare? token = some "esac" then .ok (.nothing, rest)
      else
        let tokens := match tokens with
          | .operator "(" :: rest => rest
          | tokens => tokens
        let (shapes, rest) ← shapes fuel tokens
        let (body, rest) ← list false fuel rest
        let rest := match rest with
          | .operator ";;" :: rest => rest
          | rest => rest
        let (next, rest) ← choices fuel word (skipNewlines rest)
        .ok (.choice word shapes body next, rest)

def shapes : Nat → List Token → Except Fault (List Word × List Token)
  | 0, tokens => .error (describe tokens)
  | fuel + 1, tokens =>
    match tokens with
    | .word _ word :: .operator "|" :: rest => do
      let (later, rest) ← shapes fuel rest
      .ok (word :: later, rest)
    | .word _ word :: .operator ")" :: rest => .ok ([word], rest)
    | _ => .error (describe tokens)

end

/-- The commands of all lines. What is wrong with a line shows when it is run. -/
def lines : Nat → List Token → Command
  | 0, _ => .nothing
  | fuel + 1, tokens =>
    match skipNewlines tokens with
    | [] => .nothing
    | tokens =>
      match list true (16 * (tokens.length + 1)) tokens with
      | .error (line, text) => .malformed (if line = 0 then lineOf tokens else line) text
      | .ok (first, []) => first
      | .ok (first, .newline :: rest) => .sequence first (lines fuel rest)
      | .ok (_, rest) => .malformed (lineOf tokens) (describe rest).2

def script (text : Chars) : Command :=
  let tokens := Token.ofScript text
  lines (tokens.length + 1) tokens

end Provenance.Shell.Parser
