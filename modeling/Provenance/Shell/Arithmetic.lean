import Provenance.Shell.Format

/-!
Whole numbers by expressions. A number is a word of sixty-four bits with a sign, and
what exceeds it wraps around. A name stands for the number that it is set to, and an
expression may set it.
-/

namespace Provenance.Shell.Arithmetic

inductive Operator where
  | times | over | modulo
  | plus | minus
  | shiftLeft | shiftRight
  | less | lessEqual | greater | greaterEqual
  | equal | different
  | bitAnd | bitExclusive | bitOr
  deriving DecidableEq, Repr

inductive Sign where
  | plus | minus | complement | negation
  deriving DecidableEq, Repr

inductive Expression where
  | number (value : Int)
  | named (name : Chars)
  | signed (sign : Sign) (operand : Expression)
  | binary (operator : Operator) (left right : Expression)
  | both (left right : Expression)
  | either (left right : Expression)
  | choice (test yes no : Expression)
  | assignment (name : Chars) (operator : Option Operator) (value : Expression)
  deriving Repr

inductive Fault where
  | malformed
  | divisionByZero
  | illegalNumber (text : Chars)
  deriving DecidableEq, Repr

/-! Reading -/

inductive Token where
  | number (value : Int)
  | name (name : Chars)
  | mark (text : String)
  deriving DecidableEq, Repr

def marks : List String :=
  ["<<=", ">>=", "<<", ">>", "<=", ">=", "==", "!=", "&&", "||", "+=", "-=", "*=", "/=", "%=",
    "&=", "|=", "^=", "=", "<", ">", "&", "|", "^", "+", "-", "*", "/", "%", "!", "~", "(", ")",
    "?", ":"]

def clamp (n : Int) : Int := max (-(2 ^ 63)) (min n (2 ^ 63 - 1))

def numberAt (text : Chars) : Int × Chars :=
  let read (base : Nat) (valid : Char → Bool) (text : Chars) : Int × Chars :=
    (clamp (Ascii.numberOf base (text.takeWhile valid)), text.dropWhile valid)
  match text with
  | '0' :: x :: d :: rest =>
    if (x = 'x' || x = 'X') && Ascii.isHexDigit d then read 16 Ascii.isHexDigit (d :: rest)
    else read 8 isOctal text
  | '0' :: _ => read 8 isOctal text
  | _ => read 10 Ascii.isDigit text

def tokens : Nat → Chars → Option (List Token)
  | 0, _ => none
  | _, [] => some []
  | fuel + 1, c :: rest =>
    if c = ' ' || c = '\t' || c = '\n' then tokens fuel rest
    else if Ascii.isDigit c then
      let (n, rest) := numberAt (c :: rest)
      (tokens fuel rest).map (.number n :: ·)
    else if Ascii.isLetter c || c = '_' then
      let isPart (c : Char) : Bool := Ascii.isAlphanumeric c || c = '_'
      (tokens fuel (rest.dropWhile isPart)).map (.name (c :: rest.takeWhile isPart) :: ·)
    else
      match marks.find? fun text => text.toList.isPrefixOf (c :: rest) with
      | some text => (tokens fuel ((c :: rest).drop text.length)).map (.mark text :: ·)
      | none => none

/-- The operators of two numbers by their level, the weakest first. -/
def levels : List (List (String × Operator)) := [
  [("|", .bitOr)], [("^", .bitExclusive)], [("&", .bitAnd)],
  [("==", .equal), ("!=", .different)],
  [("<", .less), ("<=", .lessEqual), (">", .greater), (">=", .greaterEqual)],
  [("<<", .shiftLeft), (">>", .shiftRight)],
  [("+", .plus), ("-", .minus)],
  [("*", .times), ("/", .over), ("%", .modulo)]]

def assignments : List (String × Option Operator) :=
  [("=", none), ("+=", some .plus), ("-=", some .minus), ("*=", some .times),
    ("/=", some .over), ("%=", some .modulo), ("&=", some .bitAnd), ("|=", some .bitOr),
    ("^=", some .bitExclusive), ("<<=", some .shiftLeft), (">>=", some .shiftRight)]

def signs : List (String × Sign) :=
  [("+", .plus), ("-", .minus), ("~", .complement), ("!", .negation)]

abbrev Parsed := Expression × List Token

mutual

def whole : Nat → List Token → Option Parsed
  | 0, _ => none
  | fuel + 1, tokens =>
    match tokens with
    | .name name :: .mark mark :: rest =>
      match assignments.lookup mark with
      | some operator => do
        let (value, rest) ← whole fuel rest
        some (.assignment name operator value, rest)
      | none => choice fuel tokens
    | _ => choice fuel tokens

def choice : Nat → List Token → Option Parsed
  | 0, _ => none
  | fuel + 1, tokens => do
    let (test, rest) ← either fuel tokens
    match rest with
    | .mark "?" :: rest =>
      let (yes, rest) ← whole fuel rest
      match rest with
      | .mark ":" :: rest =>
        let (no, rest) ← choice fuel rest
        some (.choice test yes no, rest)
      | _ => none
    | _ => some (test, rest)

def either : Nat → List Token → Option Parsed
  | 0, _ => none
  | fuel + 1, tokens => do
    let (left, rest) ← both fuel tokens
    match rest with
    | .mark "||" :: rest =>
      let (right, rest) ← either fuel rest
      some (.either left right, rest)
    | _ => some (left, rest)

def both : Nat → List Token → Option Parsed
  | 0, _ => none
  | fuel + 1, tokens => do
    let (left, rest) ← level fuel levels tokens
    match rest with
    | .mark "&&" :: rest =>
      let (right, rest) ← both fuel rest
      some (.both left right, rest)
    | _ => some (left, rest)

def level : Nat → List (List (String × Operator)) → List Token → Option Parsed
  | 0, _, _ => none
  | fuel + 1, [], tokens => operand fuel tokens
  | fuel + 1, operators :: stronger, tokens => do
    let (first, rest) ← level fuel stronger tokens
    levelRest fuel operators stronger first rest

def levelRest : Nat → List (String × Operator) → List (List (String × Operator)) →
    Expression → List Token → Option Parsed
  | 0, _, _, _, _ => none
  | fuel + 1, operators, stronger, first, tokens =>
    match tokens with
    | .mark text :: rest =>
      match operators.lookup text with
      | some operator => do
        let (second, rest) ← level fuel stronger rest
        levelRest fuel operators stronger (.binary operator first second) rest
      | none => some (first, tokens)
    | _ => some (first, tokens)

/-- A number, a name, or an expression in parentheses, with signs before it. -/
def operand : Nat → List Token → Option Parsed
  | 0, _ => none
  | fuel + 1, tokens =>
    match tokens with
    | .number n :: rest => some (.number n, rest)
    | .name name :: rest => some (.named name, rest)
    | .mark "(" :: rest => do
      let (inner, rest) ← whole fuel rest
      match rest with
      | .mark ")" :: rest => some (inner, rest)
      | _ => none
    | .mark text :: rest =>
      match signs.lookup text with
      | some sign => (operand fuel rest).map fun (e, rest) => (.signed sign e, rest)
      | none => none
    | [] => none

end

/-- Reads an expression; an empty one is zero. -/
def parse? (text : Chars) : Option Expression := do
  let tokens ← tokens (text.length + 1) text
  if tokens.isEmpty then some (.number 0)
  else
    match whole (16 * (tokens.length + 2)) tokens with
    | some (e, []) => some e
    | _ => none

/-! Values -/

def ofBool (b : Bool) : Int := if b then 1 else 0

def word (n : Int) : BitVec 64 := BitVec.ofInt 64 n

def Operator.apply (operator : Operator) (a b : Int) : Except Fault Int :=
  match operator with
  | .times => .ok (word (a * b)).toInt
  | .over => if b = 0 then .error .divisionByZero else .ok (word (a.tdiv b)).toInt
  | .modulo => if b = 0 then .error .divisionByZero else .ok (a.tmod b)
  | .plus => .ok (word (a + b)).toInt
  | .minus => .ok (word (a - b)).toInt
  | .shiftLeft => .ok (word a <<< ((word b).toNat % 64)).toInt
  | .shiftRight => .ok ((word a).sshiftRight ((word b).toNat % 64)).toInt
  | .less => .ok (ofBool (a < b))
  | .lessEqual => .ok (ofBool (a ≤ b))
  | .greater => .ok (ofBool (b < a))
  | .greaterEqual => .ok (ofBool (b ≤ a))
  | .equal => .ok (ofBool (a = b))
  | .different => .ok (ofBool (a ≠ b))
  | .bitAnd => .ok (word a &&& word b).toInt
  | .bitExclusive => .ok (word a ^^^ word b).toInt
  | .bitOr => .ok (word a ||| word b).toInt

def Sign.apply : Sign → Int → Int
  | .plus, a => a
  | .minus, a => (word (-a)).toInt
  | .complement, a => -a - 1
  | .negation, a => ofBool (a = 0)

def numberOfText (text : Chars) : Except Fault Int :=
  let blank (c : Char) : Bool := c = ' ' || ('\t' ≤ c && c ≤ '\x0d')
  let (negative, digits) := match text.dropWhile blank with
    | '-' :: rest => (true, rest)
    | '+' :: rest => (false, rest)
    | rest => (false, rest)
  let (n, rest) := numberAt digits
  if (text.dropWhile blank).isEmpty then .ok 0
  else if digits.head?.any Ascii.isDigit && rest.all blank then
    .ok (if negative then -n else n)
  else .error (.illegalNumber text)

/-- The names that an expression has set so far, the last first. -/
abbrev Assigned := List (Chars × Int)

/-- The value of an expression, `value?` being the texts that names stand for. -/
def Expression.evaluate (value? : Chars → Option Chars) :
    Expression → Assigned → Except Fault (Int × Assigned)
  | .number n, set => .ok (n, set)
  | .named name, set =>
    match set.lookup name with
    | some n => .ok (n, set)
    | none => (numberOfText ((value? name).getD [])).map (·, set)
  | .signed sign e, set => do
    let (n, set) ← e.evaluate value? set
    .ok (sign.apply n, set)
  | .binary operator left right, set => do
    let (a, set) ← left.evaluate value? set
    let (b, set) ← right.evaluate value? set
    .ok (← operator.apply a b, set)
  | .both left right, set => do
    let (a, set) ← left.evaluate value? set
    if a = 0 then .ok (0, set)
    else
      let (b, set) ← right.evaluate value? set
      .ok (ofBool (b ≠ 0), set)
  | .either left right, set => do
    let (a, set) ← left.evaluate value? set
    if a ≠ 0 then .ok (1, set)
    else
      let (b, set) ← right.evaluate value? set
      .ok (ofBool (b ≠ 0), set)
  | .choice test yes no, set => do
    let (n, set) ← test.evaluate value? set
    if n ≠ 0 then yes.evaluate value? set else no.evaluate value? set
  | .assignment target operator value, set => do
    let old ← match operator, set.lookup target with
      | none, _ => .ok 0
      | some _, some n => .ok n
      | some _, none => numberOfText ((value? target).getD [])
    let (n, set) ← value.evaluate value? set
    let n ← match operator with
      | none => .ok n
      | some operator => operator.apply old n
    .ok (n, (target, n) :: set)

/-- The value of an expression, and the names that it sets, the last first. -/
def evaluate (value? : Chars → Option Chars) (text : Chars) : Except Fault (Int × Assigned) :=
  match parse? text with
  | some e => e.evaluate value? []
  | none => .error .malformed

end Provenance.Shell.Arithmetic
