import Provenance.Shell.Tools.Input

/-!
Tests of files, texts and numbers.
-/

namespace Provenance.Shell.Tools

def integer? (text : Chars) : Option Int :=
  let blank (c : Char) : Bool := c = ' ' || ('\t' ≤ c && c ≤ '\x0d')
  let (negative, rest) := match text.dropWhile blank with
    | '-' :: rest => (true, rest)
    | '+' :: rest => (false, rest)
    | rest => (false, rest)
  let digits := rest.takeWhile Ascii.isDigit
  if digits.isEmpty || !(rest.drop digits.length).all blank then none
  else
    let n : Int := Ascii.numberOf 10 digits
    some (if negative then -n else n)

def unaryTests : Chars := "efdrwxsLhpSbcugkOGtnz".toList

def binaryTests : List String :=
  ["=", "!=", "<", ">", "-eq", "-ne", "-gt", "-ge", "-lt", "-le", "-nt", "-ot", "-ef"]

def isUnary : Chars → Bool
  | ['-', letter] => unaryTests.contains letter
  | _ => false

def isBinary (word : Chars) : Bool := binaryTests.contains (String.ofList word)

def testFile (files : Files.Tree) (kind : Char) (path : String) : Bool :=
  match files.find path, kind with
  | .ok _, 'e' => true
  | .ok (.file _ _), 'f' => true
  | .ok .directory, 'd' => true
  | .ok _, 'r' => true
  | .ok _, 'w' => true
  | .ok (.file _ executable), 'x' => executable
  | .ok .directory, 'x' => true
  | .ok (.file content _), 's' => !content.isEmpty
  | .ok .directory, 's' => true
  | .ok _, 'O' => true
  | .ok _, 'G' => true
  | _, 'c' => path = nullPath || path = zeroPath
  | _, 'e' | _, 'r' | _, 'w' => path = nullPath || path = zeroPath
  | _, _ => false

def testNumber (text : Chars) : Except String Int :=
  match integer? text with
  | some n => .ok n
  | none => .error ("Illegal number: " ++ textOf text)

structure TestScene where
  files : Files.Tree
  pipe? : String → Option Bool
  path : Chars → String

def testOne (s : TestScene) (kind : Char) (operand : Chars) : Except String Bool :=
  match kind with
  | 'n' => .ok (!operand.isEmpty)
  | 'z' => .ok operand.isEmpty
  | 't' => (testNumber operand).map fun _ => false
  | kind =>
    match s.pipe? (s.path operand), kind with
    | some isPipe, 'p' => .ok isPipe
    | some _, kind => .ok ("erw".toList.contains kind)
    | none, kind => .ok (testFile s.files kind (s.path operand))

def testTwo (s : TestScene) (a operator b : Chars) : Except String Bool := do
  let compare (holds : Int → Int → Bool) : Except String Bool := do
    .ok (holds (← testNumber a) (← testNumber b))
  match String.ofList operator with
  | "=" => .ok (a = b)
  | "!=" => .ok (a ≠ b)
  | "<" => .ok (String.ofList a < String.ofList b)
  | ">" => .ok (String.ofList b < String.ofList a)
  | "-eq" => compare fun x y => x = y
  | "-ne" => compare fun x y => x ≠ y
  | "-lt" => compare fun x y => x < y
  | "-le" => compare fun x y => x ≤ y
  | "-gt" => compare fun x y => y < x
  | "-ge" => compare fun x y => y ≤ x
  | "-ef" =>
    .ok (match s.files.resolve (s.path a), s.files.resolve (s.path b) with
      | .ok x, .ok y => x = y
      | _, _ => false)
  | _ => .ok (testFile s.files 'e' (s.path a) && !testFile s.files 'e' (s.path b))

def isOperand : List Chars → Bool
  | [] | [_] => true
  | [_, _] => false
  | _ :: next :: _ => isBinary next

def operator? : List Chars → Option String
  | [] => none
  | word :: rest =>
    let others := ["!", "-a", "-o", "(", ")"]
    let known := isUnary word || isBinary word || others.contains (String.ofList word)
    if !known || (isUnary word && isOperand (word :: rest)) || (word = ['('] && rest.isEmpty) then
      none
    else some (String.ofList word)

abbrev Tested := Except String (Bool × List Chars)

mutual

def testEither (s : TestScene) : Nat → List Chars → Tested
  | 0, _ => .error "too many arguments"
  | fuel + 1, words => do
    let (first, rest) ← testBoth s fuel words
    if operator? rest = some "-o" then
      let (second, rest) ← testEither s fuel (rest.drop 1)
      .ok (first || second, rest)
    else .ok (first, rest)

def testBoth (s : TestScene) : Nat → List Chars → Tested
  | 0, _ => .error "too many arguments"
  | fuel + 1, words => do
    let (first, rest) ← testNot s fuel words
    if operator? rest = some "-a" then
      let (second, rest) ← testBoth s fuel (rest.drop 1)
      .ok (first && second, rest)
    else .ok (first, rest)

def testNot (s : TestScene) : Nat → List Chars → Tested
  | 0, _ => .error "too many arguments"
  | fuel + 1, words =>
    if operator? words = some "!" then
      (testNot s fuel (words.drop 1)).map fun (b, rest) => (!b, rest)
    else testSimple s fuel words

def testSimple (s : TestScene) : Nat → List Chars → Tested
  | 0, _ => .error "too many arguments"
  | fuel + 1, words =>
    match words with
    | [] => .ok (false, [])
    | word :: rest =>
      if operator? words = some "(" then
        if operator? rest = some ")" then .ok (false, rest.drop 1)
        else do
          let (b, rest) ← testEither s fuel rest
          if operator? rest = some ")" then .ok (b, rest.drop 1)
          else .error "closing paren expected"
      else if isUnary word && (operator? words).isSome then
        match rest with
        | operand :: rest => (testOne s (word.getLastD 'n') operand).map (·, rest)
        | [] => .error (textOf word ++ ": argument expected")
      else
        match rest with
        | operator :: more =>
          if isBinary operator then
            match more with
            | b :: more => (testTwo s word operator b).map (·, more)
            | [] => .error (textOf operator ++ ": argument expected")
          else .ok (!word.isEmpty, rest)
        | [] => .ok (!word.isEmpty, [])

end

/-- The value of a whole test, or why it makes no sense. What few words mean does not
depend on what they look like. -/
def test (s : TestScene) : Nat → List Chars → Except String Bool
  | 0, _ => .error "too many arguments"
  | fuel + 1, words =>
    let whole (words : List Chars) : Except String Bool := do
      match ← testEither s (8 * (words.length + 2)) words with
      | (b, []) => .ok b
      | (_, _) => .error (textOf (words.headD []) ++ ": unexpected operator")
    let few := words.length = 3 || words.length = 4
    match words with
    | [a, operator, b] =>
      if isBinary operator then testTwo s a operator b
      else if a = ['('] && b = [')'] then whole [operator]
      else if a = ['!'] then (test s fuel [operator, b]).map (!·)
      else whole words
    | words =>
      if few && words.head? = some ['('] && words.getLast? = some [')'] then
        whole (words.drop 1).dropLast
      else if few && words.head? = some ['!'] then (test s fuel (words.drop 1)).map (!·)
      else whole words

def pipeAt? (m : Machine) (path : String) : Option Bool := do
  match ← m.channels.lookup (← descriptorOf? path) with
  | .sink (.output _) | .sink .errors | .source 0 => some true
  | .sink _ => some false
  | .source index => some ((m.sources[index]?).any fun source => !source.keeps)

def runTest (name : String) (arguments : List Chars) : Run Unit := do
  let m ← get
  let path (text : Chars) : String :=
    let text := textOf text
    if text.isEmpty then text else m.directory.elim text (Files.joinPath · text)
  match test ⟨m.files, pipeAt? m, path⟩ (arguments.length + 1) arguments with
  | .ok true => setStatus 0
  | .ok false => setStatus 1
  | .error reason => complain (name ++ ": " ++ reason) 2

def bracket (arguments : List Chars) : Run Unit :=
  if arguments.getLast? = some [']'] then runTest "[" arguments.dropLast
  else complain "[: missing ]" 2

end Provenance.Shell.Tools
