import Provenance.Shell.Records.Token
import Provenance.Shell.Regex

/-!
Programs that go through a text record by record: patterns, which say for what records
something is done, and actions, which say what.
-/

namespace Provenance.Shell.Records

inductive Operator where
  | plus | minus | times | over | modulo | power
  deriving DecidableEq, Repr

inductive Comparison where
  | less | lessEqual | equal | different | greater | greaterEqual
  deriving DecidableEq, Repr

mutual

inductive Place where
  | named (name : Chars)
  | item (array : Chars) (keys : List Expression)
  | field (number : Expression)

inductive Expression where
  | number (value : Float)
  | text (text : Chars)
  | regex (regex : Regex)
  | place (place : Place)
  | assignment (operator : Option Operator) (place : Place) (value : Expression)
  | step (amount : Float) (isNew : Bool) (place : Place)
  | plus (operand : Expression)
  | minus (operand : Expression)
  | negation (operand : Expression)
  | binary (operator : Operator) (left right : Expression)
  | joined (left right : Expression)
  | compared (comparison : Comparison) (left right : Expression)
  | found (negated : Bool) (text pattern : Expression)
  | both (left right : Expression)
  | either (left right : Expression)
  | choice (test yes no : Expression)
  | member (keys : List Expression) (array : Chars)
  | call (name : Chars) (arguments : List Expression)
  | tool (name : String) (arguments : List Expression)
  | line (target : Option Place) (file : Option Expression)

end

/-- Where a statement writes to: a file, which may be added to. -/
structure Target where
  adds : Bool
  file : Expression

inductive Statement where
  | block (body : List Statement)
  | value (e : Expression)
  | print (values : List Expression) (target : Option Target)
  | format (values : List Expression) (target : Option Target)
  | conditional (test : Expression) (yes no : Statement)
  | loop (test : Expression) (body : Statement)
  | atLeastOnce (body : Statement) (test : Expression)
  | count (start : Statement) (test : Option Expression) (next body : Statement)
  | each (name array : Chars) (body : Statement)
  | leave
  | again
  | next
  | exit (code : Option Expression)
  | answer (value : Option Expression)
  | delete (array : Chars) (keys : Option (List Expression))

inductive Pattern where
  | atStart
  | atEnd
  | always
  | test (e : Expression)
  | range (first last : Expression)

structure Rule where
  pattern : Pattern
  action : Statement

structure Function where
  name : Chars
  parameters : List Chars
  body : Statement

structure Program where
  rules : List Rule
  functions : List Function

end Provenance.Shell.Records

/-!
Reading programs that go through records. Each reader gives what it has read and the
tokens behind it.
-/

namespace Provenance.Shell

def Real.toFloat : Real → Float
  | .finite x =>
    let size := (Float.ofNat x.mantissa).scaleB x.exponent
    if x.negative then -size else size
  | .infinite negative => if negative then -1.0 / 0.0 else 1.0 / 0.0
  | .notNumber _ => 0.0 / 0.0

namespace Records

def numberAt? (text : Chars) : Option (Float × Chars) :=
  (Real.at? text).map fun (x, rest) => (x.toFloat, rest)

def plainEscapes : Chars → Chars
  | '\\' :: c :: rest =>
    if c = '\x22' || c = '/' then c :: plainEscapes rest
    else
      match letterEscapes.lookup c with
      | some '\\' | none => '\\' :: c :: plainEscapes rest
      | some escaped => escaped :: plainEscapes rest
  | c :: rest => c :: plainEscapes rest
  | [] => []

def regexOf? (text : Chars) : Option Regex := Regex.parse? .extended (plainEscapes text)

abbrev Parsed (α : Type) := α × List Token

def dropNewlines : List Token → List Token
  | .newline :: rest => dropNewlines rest
  | tokens => tokens

/-- The tokens behind what may stand between statements. -/
def dropEnds : List Token → List Token
  | .newline :: rest | .mark ";" :: rest => dropEnds rest
  | tokens => tokens

def behind? (mark : String) : List Token → Option (List Token)
  | .mark other :: rest => if other = mark then some rest else none
  | _ => none

def assignments : List (String × Option Operator) :=
  [("=", none), ("+=", some .plus), ("-=", some .minus), ("*=", some .times),
    ("/=", some .over), ("%=", some .modulo), ("^=", some .power)]

def comparisons : List (String × Comparison) :=
  [("<", .less), ("<=", .lessEqual), ("==", .equal), ("!=", .different), (">=", .greaterEqual)]

def sums : List (String × Operator) := [("+", .plus), ("-", .minus)]

def products : List (String × Operator) := [("*", .times), ("/", .over), ("%", .modulo)]

def steps : List (String × Float) := [("++", 1.0), ("--", -1.0)]

/-- Whether a token may begin what is joined to the value before it. -/
def Token.startsOperand : Token → Bool
  | .number _ | .text _ | .name _ | .function _ | .tool _ | .regex _ => true
  | .mark m => ["$", "(", "++", "--"].contains m
  | _ => false

def isEnd : List Token → Bool
  | [] | .newline :: _ | .mark ";" :: _ | .mark "\x7d" :: _ => true
  | _ => false

mutual

/-- An expression; `plain` says that `>` compares, and does not lead to a file. -/
def expression : Nat → Bool → List Token → Option (Parsed Expression)
  | 0, _, _ => none
  | fuel + 1, plain, tokens => do
    let (test, rest) ← either fuel plain tokens
    match behind? "?" rest with
    | none => some (test, rest)
    | some rest =>
      let (yes, rest) ← expression fuel plain (dropNewlines rest)
      let rest ← behind? ":" (dropNewlines rest)
      let (no, rest) ← expression fuel plain (dropNewlines rest)
      some (.choice test yes no, rest)

def either : Nat → Bool → List Token → Option (Parsed Expression)
  | 0, _, _ => none
  | fuel + 1, plain, tokens => do
    let (left, rest) ← both fuel plain tokens
    match behind? "||" rest with
    | none => some (left, rest)
    | some rest =>
      let (right, rest) ← either fuel plain (dropNewlines rest)
      some (.either left right, rest)

def both : Nat → Bool → List Token → Option (Parsed Expression)
  | 0, _, _ => none
  | fuel + 1, plain, tokens => do
    let (left, rest) ← found fuel plain tokens
    match behind? "&&" rest with
    | none => some (left, rest)
    | some rest =>
      let (right, rest) ← both fuel plain (dropNewlines rest)
      some (.both left right, rest)

def found : Nat → Bool → List Token → Option (Parsed Expression)
  | 0, _, _ => none
  | fuel + 1, plain, tokens => do
    let (text, rest) ← compared fuel plain tokens
    foundIn fuel plain text rest

def foundIn : Nat → Bool → Expression → List Token → Option (Parsed Expression)
  | 0, _, _, _ => none
  | fuel + 1, plain, text, tokens =>
    match tokens with
    | .mark "~" :: rest => do
      let (pattern, rest) ← compared fuel plain rest
      foundIn fuel plain (.found false text pattern) rest
    | .mark "!~" :: rest => do
      let (pattern, rest) ← compared fuel plain rest
      foundIn fuel plain (.found true text pattern) rest
    | .word "in" :: .name array :: rest => foundIn fuel plain (.member [text] array) rest
    | tokens => some (text, tokens)

def compared : Nat → Bool → List Token → Option (Parsed Expression)
  | 0, _, _ => none
  | fuel + 1, plain, tokens => do
    let (left, rest) ← joined fuel plain tokens
    match rest with
    | .mark mark :: behind =>
      let all := if plain then (">", Comparison.greater) :: comparisons else comparisons
      match all.lookup mark with
      | some comparison =>
        let (right, rest) ← joined fuel plain behind
        some (.compared comparison left right, rest)
      | none => some (left, rest)
    | rest => some (left, rest)

def joined : Nat → Bool → List Token → Option (Parsed Expression)
  | 0, _, _ => none
  | fuel + 1, plain, tokens => do
    let (first, rest) ← level fuel plain [sums, products] tokens
    joinedTo fuel plain first rest

def joinedTo : Nat → Bool → Expression → List Token → Option (Parsed Expression)
  | 0, _, _, _ => none
  | fuel + 1, plain, first, tokens =>
    if tokens.head?.any Token.startsOperand then do
      let (second, rest) ← level fuel plain [sums, products] tokens
      joinedTo fuel plain (.joined first second) rest
    else some (first, tokens)

def level : Nat → Bool → List (List (String × Operator)) → List Token → Option (Parsed Expression)
  | 0, _, _, _ => none
  | fuel + 1, plain, [], tokens => signed fuel plain tokens
  | fuel + 1, plain, operators :: stronger, tokens => do
    let (left, rest) ← level fuel plain stronger tokens
    levelFrom fuel plain operators stronger left rest

def levelFrom : Nat → Bool → List (String × Operator) → List (List (String × Operator)) →
    Expression → List Token → Option (Parsed Expression)
  | 0, _, _, _, _, _ => none
  | fuel + 1, plain, operators, stronger, left, tokens =>
    match tokens with
    | .mark mark :: rest =>
      match operators.lookup mark with
      | some operator => do
        let (right, rest) ← level fuel plain stronger rest
        levelFrom fuel plain operators stronger (.binary operator left right) rest
      | none => some (left, tokens)
    | tokens => some (left, tokens)

def signed : Nat → Bool → List Token → Option (Parsed Expression)
  | 0, _, _ => none
  | fuel + 1, plain, tokens =>
    let under (rest : List Token) (sign : Expression → Expression) : Option (Parsed Expression) :=
      (signed fuel plain rest).map fun (value, rest) => (sign value, rest)
    match tokens with
    | .mark "!" :: rest => under rest .negation
    | .mark "-" :: rest => under rest .minus
    | .mark "+" :: rest => under rest .plus
    | tokens => do
      let (base, rest) ← operand fuel plain tokens
      match behind? "^" rest with
      | none => some (base, rest)
      | some rest =>
        let (exponent, rest) ← signed fuel plain rest
        some (.binary .power base exponent, rest)

def operand : Nat → Bool → List Token → Option (Parsed Expression)
  | 0, _, _ => none
  | fuel + 1, plain, tokens => do
    let (value, rest) ← primary fuel tokens
    match value, rest with
    | .place place, .mark mark :: behind =>
      match steps.lookup mark, assignments.lookup mark with
      | some amount, _ => some (.step amount false place, behind)
      | none, some operator =>
        let (value, rest) ← expression fuel plain (dropNewlines behind)
        some (.assignment operator place value, rest)
      | none, none => some (value, rest)
    | value, rest => some (value, rest)

def primary : Nat → List Token → Option (Parsed Expression)
  | 0, _ => none
  | fuel + 1, tokens =>
    match tokens with
    | .number text :: rest => (numberAt? text).map fun (x, _) => (.number x, rest)
    | .text text :: rest => some (.text text, rest)
    | .regex text :: rest => (regexOf? text).map fun r => (.regex r, rest)
    | .mark "(" :: rest => do
      let (values, rest) ← list fuel rest
      let rest ← behind? ")" (dropNewlines rest)
      match values, rest with
      | [value], rest => some (value, rest)
      | values, .word "in" :: .name array :: rest => some (.member values array, rest)
      | _, _ => none
    | .mark "$" :: rest => do
      let (number, rest) ← primary fuel rest
      some (.place (.field number), rest)
    | .mark "-" :: rest => (primary fuel rest).map fun (value, rest) => (.minus value, rest)
    | .mark mark :: rest => do
      let amount ← steps.lookup mark
      let (value, rest) ← primary fuel rest
      match value with
      | .place place => some (.step amount true place, rest)
      | _ => none
    | .name array :: .mark "[" :: rest => do
      let (keys, rest) ← list fuel rest
      some (.place (.item array keys), ← behind? "]" rest)
    | .name name :: rest => some (.place (.named name), rest)
    | .function name :: .mark "(" :: rest => do
      let (arguments, rest) ← list fuel rest
      some (.call name arguments, ← behind? ")" (dropNewlines rest))
    | .tool name :: .mark "(" :: rest => do
      let (arguments, rest) ← list fuel rest
      some (.tool name arguments, ← behind? ")" (dropNewlines rest))
    | .tool name :: rest => some (.tool name [], rest)
    | .word "getline" :: rest => do
      let (target, rest) : Option Place × List Token ←
        match rest with
        | .name _ :: _ | .mark "$" :: _ =>
          match primary fuel rest with
          | some (.place place, rest) => some (some place, rest)
          | _ => none
        | rest => some (none, rest)
      match behind? "<" rest with
      | some rest =>
        let (file, rest) ← primary fuel rest
        some (.line target (some file), rest)
      | none => some (.line target none, rest)
    | _ => none

/-- Values with commas between them; there may be none. -/
def list : Nat → List Token → Option (Parsed (List Expression))
  | 0, _ => none
  | fuel + 1, tokens =>
    match expression fuel true (dropNewlines tokens) with
    | none => some ([], tokens)
    | some (first, rest) =>
      match behind? "," (dropNewlines rest) with
      | some rest => do
        let (others, rest) ← list fuel rest
        if others.isEmpty then none else some (first :: others, rest)
      | none => some ([first], rest)

end

/-- Values with commas between them behind which a statement may lead to a file. -/
def openList : Nat → List Token → Option (Parsed (List Expression))
  | 0, _ => none
  | fuel + 1, tokens => do
    let (first, rest) ← expression (4 * tokens.length + 20) false tokens
    match behind? "," rest with
    | some rest =>
      let (others, rest) ← openList fuel (dropNewlines rest)
      some (first :: others, rest)
    | none => some ([first], rest)

def fuelFor (tokens : List Token) : Nat := 20 * tokens.length + 40

def leadsAway : List Token → Bool
  | .mark ">" :: _ | .mark ">>" :: _ => true
  | tokens => isEnd tokens

def written (tokens : List Token) : Option (Parsed (List Expression × Option Target)) := do
  let enclosed : Option (Parsed (List Expression)) := do
    let rest ← behind? "(" tokens
    let (values, rest) ← list (fuelFor rest) rest
    let rest ← behind? ")" (dropNewlines rest)
    if leadsAway rest then some (values, rest) else none
  let (values, rest) ← if leadsAway tokens then some ([], tokens)
    else enclosed <|> openList (fuelFor tokens) tokens
  match rest with
  | .mark ">" :: rest => do
    let (file, rest) ← joined (fuelFor rest) false rest
    some ((values, some ⟨false, file⟩), rest)
  | .mark ">>" :: rest => do
    let (file, rest) ← joined (fuelFor rest) false rest
    some ((values, some ⟨true, file⟩), rest)
  | rest => some ((values, none), rest)

def value (tokens : List Token) : Option (Parsed Expression) :=
  expression (fuelFor tokens) true tokens

def value? (tokens : List Token) : Option (Parsed (Option Expression)) :=
  if isEnd tokens then some (none, tokens)
  else (value tokens).map fun (e, rest) => (some e, rest)

def enclosed (tokens : List Token) : Option (Parsed Expression) := do
  let (test, rest) ← value (← behind? "(" tokens)
  some (test, ← behind? ")" rest)

def simple (tokens : List Token) : Option (Parsed Statement) := do
  match tokens with
  | .word "print" :: rest =>
    let ((values, target), rest) ← written rest
    some (.print values target, rest)
  | .word "printf" :: rest =>
    let ((values, target), rest) ← written rest
    some (.format values target, rest)
  | .word "break" :: rest => some (.leave, rest)
  | .word "continue" :: rest => some (.again, rest)
  | .word "next" :: rest => some (.next, rest)
  | .word "exit" :: rest => (value? rest).map fun (code, rest) => (.exit code, rest)
  | .word "return" :: rest => (value? rest).map fun (answer, rest) => (.answer answer, rest)
  | .word "delete" :: .name array :: .mark "[" :: rest =>
    let (keys, rest) ← list (fuelFor rest) rest
    some (.delete array (some keys), ← behind? "]" rest)
  | .word "delete" :: .name array :: rest => some (.delete array none, rest)
  | tokens => (value tokens).map fun (e, rest) => (.value e, rest)

/-- The tokens behind the end of a statement; before a brace there need not be any. -/
def ended? : List Token → Option (List Token)
  | .newline :: rest | .mark ";" :: rest => some rest
  | tokens => if isEnd tokens then some tokens else none

def part (tokens : List Token) : Option (Parsed Statement) :=
  match tokens with
  | .mark ";" :: _ | .mark ")" :: _ => some (.block [], tokens)
  | tokens => simple tokens

mutual

def statement : Nat → List Token → Option (Parsed Statement)
  | 0, _ => none
  | fuel + 1, tokens => do
    match tokens with
    | .mark "\x7b" :: rest =>
      let (body, rest) ← statements fuel (dropEnds rest)
      some (.block body, rest)
    | .mark ";" :: rest => some (.block [], rest)
    | .word "if" :: rest =>
      let (test, rest) ← enclosed rest
      let (yes, rest) ← statement fuel (dropNewlines rest)
      match dropEnds rest with
      | .word "else" :: rest =>
        let (no, rest) ← statement fuel (dropNewlines rest)
        some (.conditional test yes no, rest)
      | _ => some (.conditional test yes (.block []), rest)
    | .word "while" :: rest =>
      let (test, rest) ← enclosed rest
      let (body, rest) ← statement fuel (dropNewlines rest)
      some (.loop test body, rest)
    | .word "do" :: rest =>
      let (body, rest) ← statement fuel (dropNewlines rest)
      match dropEnds rest with
      | .word "while" :: rest =>
        let (test, rest) ← enclosed rest
        some (.atLeastOnce body test, ← ended? rest)
      | _ => none
    | .word "for" :: .mark "(" :: .name name :: .word "in" :: .name array :: .mark ")" ::
        rest =>
      let (body, rest) ← statement fuel (dropNewlines rest)
      some (.each name array body, rest)
    | .word "for" :: .mark "(" :: rest =>
      let (start, rest) ← part rest
      let (test, rest) ← value? (← behind? ";" rest)
      let (onward, rest) ← part (dropNewlines (← behind? ";" rest))
      let (body, rest) ← statement fuel (dropNewlines (← behind? ")" rest))
      some (.count start test onward body, rest)
    | tokens =>
      let (done, rest) ← simple tokens
      some (done, ← ended? rest)

def statements : Nat → List Token → Option (Parsed (List Statement))
  | 0, _ => none
  | fuel + 1, tokens =>
    match tokens with
    | .mark "\x7d" :: rest => some ([], rest)
    | tokens => do
      let (first, rest) ← statement fuel tokens
      let (others, rest) ← statements fuel (dropEnds rest)
      some (first :: others, rest)

end

def parameters : List Token → Option (Parsed (List Chars))
  | .mark ")" :: rest => some ([], rest)
  | .name name :: .mark "," :: rest => (parameters rest).map fun (others, rest) =>
    (name :: others, rest)
  | .name name :: .mark ")" :: rest => some ([name], rest)
  | _ => none

/-- An action between braces, or the one of a rule without any: to write the record. -/
def action (tokens : List Token) : Option (Parsed Statement) :=
  match tokens with
  | .mark "\x7b" :: rest => do
    let (body, rest) ← statements (fuelFor rest) (dropEnds rest)
    some (.block body, rest)
  | tokens => some (.print [] none, tokens)

def program : Nat → List Token → Option Program
  | 0, _ => none
  | fuel + 1, tokens => do
    let rule (pattern : Pattern) (rest : List Token) : Option Program := do
      let (done, rest) ← action rest
      let later ← program fuel rest
      some { later with rules := ⟨pattern, done⟩ :: later.rules }
    let define (name : Chars) (rest : List Token) : Option Program := do
      let (names, rest) ← parameters rest
      let (body, rest) ← action (dropNewlines rest)
      let later ← program fuel rest
      some { later with functions := ⟨name, names, body⟩ :: later.functions }
    match dropEnds tokens with
    | [] => some ⟨[], []⟩
    | .word "function" :: .function name :: .mark "(" :: rest => define name rest
    | .word "func" :: .function name :: .mark "(" :: rest => define name rest
    | .word "function" :: .name name :: .mark "(" :: rest => define name rest
    | .word "BEGIN" :: rest => rule .atStart rest
    | .word "END" :: rest => rule .atEnd rest
    | .mark "\x7b" :: rest => rule .always (.mark "\x7b" :: rest)
    | tokens =>
      let (first, rest) ← value tokens
      match behind? "," rest with
      | some rest =>
        let (last, rest) ← value (dropNewlines rest)
        rule (.range first last) rest
      | none => rule (.test first) rest

def Program.read (text : Chars) : Option Program := do
  let found ← tokens (text.length + 1) none text
  program (found.length + 1) found

end Records

end Provenance.Shell
