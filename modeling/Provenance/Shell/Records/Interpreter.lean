import Provenance.Shell.Records.Machine

/-!
Running programs that go through records.
-/

namespace Provenance.Shell.Records

/-- Goes no further, for a program that does not come to its end. -/
def exhausted {α : Type} : Work α := (throw .writing : Run α)

def turnOf (body : Work Unit) : Work Bool := do
  try
    body
    pure true
  catch
    | .loop => pure false
    | .turn => pure true
    | leave => throw leave

def functionsOfNumbers : List (String × (Float → Float)) :=
  [("sin", Float.sin), ("cos", Float.cos), ("exp", Float.exp), ("log", Float.log),
    ("sqrt", Float.sqrt), ("int", fun x => if x < 0.0 then x.ceil else x.floor)]

def capital (c : Char) : Char := if Class.isLower c then Class.otherCase c else c

/-- What a tool makes of values, if it needs nothing else. -/
def ofValues? (s : State) (name : String) (values : List Value) : Option Value :=
  let number (x : Float) : Value := .number x
  match name, values with
  | "length", [] => some (.ofNat s.record.length)
  | "length", [value] => some (.ofNat (s.textOf value).length)
  | "substr", [text, start] => some (.text (slice (s.textOf text) start.toNumber none))
  | "substr", [text, start, count] =>
    some (.text (slice (s.textOf text) start.toNumber (some count.toNumber)))
  | "index", [text, wanted] => some (.ofNat (placeOf (s.textOf wanted) 1 (s.textOf text)))
  | "tolower", [text] => some (.text ((s.textOf text).map Ascii.lower))
  | "toupper", [text] => some (.text ((s.textOf text).map capital))
  | "sprintf", form :: values =>
    (formatted s.textOf ((s.textOf form).length + 1) (s.textOf form) values).map .text
  | "atan2", [y, x] => some (number (Float.atan2 y.toNumber x.toNumber))
  | "rand", [] => some (number 0.5)
  | "srand", _ => some (number 0.0)
  | "fflush", _ => some (number 0.0)
  | name, [x] => (functionsOfNumbers.lookup name).map fun f => number (f x.toNumber)
  | _, _ => none

def substitute (r : Regex) (new : Chars) (everywhere : Bool) (spot : Spot) : Work Value := do
  let text := (← get).textOf (← spot.read)
  let (made, count) := replaced r new everywhere ⟨text.toArray, false⟩ (text.length + 2) 0 false
  if count ≠ 0 then spot.write (.text made)
  pure (.ofNat count)

def locate (r : Regex) (text : Chars) : Work Value := do
  let keep (start : Float) (length : Float) : Work Unit := modify fun s =>
    (s.set "RSTART".toList (.number start)).set "RLENGTH".toList (.number length)
  match findIn? r ⟨text.toArray, false⟩ 0 with
  | some m =>
    keep (Float.ofNat (m.start + 1)) (Float.ofNat (m.finish - m.start))
    pure (.ofNat (m.start + 1))
  | none =>
    keep 0.0 (-1.0)
    pure (.number 0.0)

def spread (array : Chars) (texts : List Chars) : Work Value := do
  let items := texts.mapIdx fun i text => ((toString (i + 1)).toList, Value.input text)
  modify fun s => s.setItems array items
  pure (.ofNat texts.length)

mutual

def resolve (p : Program) : Nat → Place → Work Spot
  | 0, _ => exhausted
  | fuel + 1, place => do
    match place with
    | .named name => pure (.named name)
    | .item array keys => pure (.item array (← keyOf p fuel keys))
    | .field number =>
      let n := wholeOf (← eval p fuel number).toNumber
      if n < 0 then throw (.failure "negative field index") else pure (.field n.toNat)

def keyOf (p : Program) : Nat → List Expression → Work Chars
  | 0, _ => exhausted
  | fuel + 1, keys => do
    let values ← evalAll p fuel keys
    let s ← get
    pure ((values.map s.textOf).intersperse (s.textIn "SUBSEP")).flatten

def evalAll (p : Program) : Nat → List Expression → Work (List Value)
  | 0, _ => exhausted
  | _, [] => pure []
  | fuel + 1, e :: rest => do
    let value ← eval p fuel e
    pure (value :: (← evalAll p fuel rest))

def textFrom (p : Program) : Nat → Expression → Work Chars
  | 0, _ => exhausted
  | fuel + 1, e => do
    let value ← eval p fuel e
    pure ((← get).textOf value)

/-- An expression that is looked for: one that is written as such, or the one that a
text is. -/
def regexFrom (p : Program) : Nat → Expression → Work Regex
  | 0, _ => exhausted
  | fuel + 1, e => do
    match e with
    | .regex r => pure r
    | e =>
      match regexOf? (← textFrom p fuel e) with
      | some r => pure r
      | none => throw (.failure "regular expression compile failed")

def eval (p : Program) : Nat → Expression → Work Value
  | 0, _ => exhausted
  | fuel + 1, e => do
    match e with
    | .number x => pure (.number x)
    | .text text => pure (.text text)
    | .regex r => pure (.ofBool (findIn? r ⟨(← get).record.toArray, false⟩ 0).isSome)
    | .place place => (← resolve p fuel place).read
    | .assignment operator place value =>
      let value ← eval p fuel value
      let spot ← resolve p fuel place
      let value ← match operator with
        | none => pure value
        | some operator =>
          pure (.number (operator.apply (← spot.read).toNumber value.toNumber))
      spot.write value
      pure value
    | .step amount isNew place =>
      let spot ← resolve p fuel place
      let old := (← spot.read).toNumber
      spot.write (.number (old + amount))
      pure (.number (if isNew then old + amount else old))
    | .plus operand => pure (.number (← eval p fuel operand).toNumber)
    | .minus operand => pure (.number (0.0 - (← eval p fuel operand).toNumber))
    | .negation operand => pure (.ofBool (!(← eval p fuel operand).isTrue))
    | .binary operator left right =>
      let x ← eval p fuel left
      let y ← eval p fuel right
      pure (.number (operator.apply x.toNumber y.toNumber))
    | .joined left right =>
      let first ← textFrom p fuel left
      pure (.text (first ++ (← textFrom p fuel right)))
    | .compared comparison left right =>
      let x ← eval p fuel left
      let y ← eval p fuel right
      pure (.ofBool (comparison.compare (← get).textOf x y))
    | .found negated text pattern =>
      let text ← textFrom p fuel text
      let r ← regexFrom p fuel pattern
      pure (.ofBool ((findIn? r ⟨text.toArray, false⟩ 0).isSome != negated))
    | .both left right =>
      if (← eval p fuel left).isTrue then pure (.ofBool (← eval p fuel right).isTrue)
      else pure (.ofBool false)
    | .either left right =>
      if (← eval p fuel left).isTrue then pure (.ofBool true)
      else pure (.ofBool (← eval p fuel right).isTrue)
    | .choice test yes no =>
      if (← eval p fuel test).isTrue then eval p fuel yes else eval p fuel no
    | .member keys array =>
      let key ← keyOf p fuel keys
      pure (.ofBool (((← get).items array).any fun item => item.1 = key))
    | .call name arguments => call p fuel name arguments
    | .tool name arguments => useTool p fuel name arguments
    | .line target file =>
      let found ← match file with
        | none => pure (some (← nextRecord ((← get).operands.length + 2)))
        | some file => nextLine (← textFrom p fuel file)
      match found with
      | none => pure (.number (-1.0))
      | some none => pure (.number 0.0)
      | some (some record) =>
        match target with
        | none => modify fun s => s.setRecord record
        | some place => (← resolve p fuel place).write (.input record)
        pure (.number 1.0)

def useTool (p : Program) : Nat → String → List Expression → Work Value
  | 0, _, _ => exhausted
  | fuel + 1, name, arguments => do
    match name, arguments with
    | "length", [.place (.named array)] =>
      let s ← get
      if (s.items array).isEmpty then pure (.ofNat (s.textOf (s.get array)).length)
      else pure (.ofNat (s.items array).length)
    | "split", [text, .place (.named array)] =>
      let text ← textFrom p fuel text
      spread array ((Separator.ofText ((← get).textIn "FS")).split text)
    | "split", [text, .place (.named array), .regex r] =>
      spread array ((Separator.regex r).split (← textFrom p fuel text))
    | "split", [text, .place (.named array), separator] =>
      let text ← textFrom p fuel text
      spread array ((Separator.ofText (← textFrom p fuel separator)).split text)
    | "match", [text, pattern] =>
      let text ← textFrom p fuel text
      locate (← regexFrom p fuel pattern) text
    | "close", [file] =>
      let file ← textFrom p fuel file
      modify fun s => { s with
        opened := s.opened.filter fun entry => entry.1 ≠ file
        written := s.written.filter (· ≠ file) }
      pure (.number 0.0)
    | name, arguments =>
      match name = "sub" || name = "gsub", arguments with
      | true, pattern :: new :: target =>
        let r ← regexFrom p fuel pattern
        let new ← textFrom p fuel new
        let spot ← match target with
          | [.place place] => resolve p fuel place
          | _ => pure (.field 0)
        substitute r new (name = "gsub") spot
      | _, arguments =>
        let values ← evalAll p fuel arguments
        match ofValues? (← get) name values with
        | some value => pure value
        | none => throw (.failure ("cannot use " ++ name))

/-- Calls a function. What it is given by name it may use as an array of the caller. -/
def call (p : Program) : Nat → Chars → List Expression → Work Value
  | 0, _, _ => exhausted
  | fuel + 1, name, arguments => do
    match p.functions.find? fun f => f.name = name with
    | none => throw (.failure ("function " ++ textOf name ++ " never defined"))
    | some f =>
      let values ← evalAll p fuel arguments
      let before ← get
      let own (parameter : Chars) : Chars :=
        parameter ++ '@' :: (toString before.calls).toList
      let frame := f.parameters.mapIdx fun i parameter =>
        let array := match arguments[i]? with
          | some (.place (.named name)) => before.arrayName name
          | _ => own parameter
        (parameter, own parameter, array)
      let given := (f.parameters.zip values).map fun (parameter, value) => (own parameter, value)
      set { before with frame, calls := before.calls + 1, values := given ++ before.values }
      let answer ← try
          exec p fuel f.body
          pure Value.unset
        catch
          | .answer value => pure value
          | leave => throw leave
      let owned := f.parameters.map own
      modify fun after => { after with
        frame := before.frame
        values := after.values.filter fun entry => !owned.contains entry.1
        arrays := after.arrays.filter fun entry => !owned.contains entry.1 }
      pure answer

def exec (p : Program) : Nat → Statement → Work Unit
  | 0, _ => exhausted
  | fuel + 1, statement => do
    match statement with
    | .block body => execAll p fuel body
    | .value e =>
      let _ ← eval p fuel e
    | .print values target =>
      let values ← evalAll p fuel values
      let target ← targetOf p fuel target
      let s ← get
      let shown := values.map fun value => value.toText (s.textIn "OFMT")
      let line := if values.isEmpty then s.record
        else (shown.intersperse (s.textIn "OFS")).flatten
      write target (line ++ s.textIn "ORS")
    | .format values target =>
      let values ← evalAll p fuel values
      let target ← targetOf p fuel target
      match ofValues? (← get) "sprintf" values with
      | some (.text text) => write target text
      | _ => throw (.failure "not enough arguments passed to printf")
    | .conditional test yes no =>
      if (← eval p fuel test).isTrue then exec p fuel yes else exec p fuel no
    | .loop test body => execLoop p fuel (some test) (.block []) body
    | .atLeastOnce body test =>
      if ← turnOf (exec p fuel body) then execLoop p fuel (some test) (.block []) body
    | .count start test onward body =>
      exec p fuel start
      execLoop p fuel test onward body
    | .each name array body =>
      execEach p fuel name body (((← get).items array).map Prod.fst)
    | .leave => throw .loop
    | .again => throw .turn
    | .next => throw .record
    | .exit none => throw (.exit none)
    | .exit (some code) => throw (.exit (some (← eval p fuel code).toNumber))
    | .answer none => throw (.answer .unset)
    | .answer (some value) => throw (.answer (← eval p fuel value))
    | .delete array none => modify fun s => s.setItems array []
    | .delete array (some keys) =>
      let key ← keyOf p fuel keys
      modify fun s => s.setItems array ((s.items array).filter fun item => item.1 ≠ key)

def targetOf (p : Program) : Nat → Option Target → Work (Option (Bool × Chars))
  | 0, _ => exhausted
  | _, none => pure none
  | fuel + 1, some target => do pure (some (target.adds, ← textFrom p fuel target.file))

def execAll (p : Program) : Nat → List Statement → Work Unit
  | 0, _ => exhausted
  | _, [] => pure ()
  | fuel + 1, statement :: rest => do
    exec p fuel statement
    execAll p fuel rest

def execLoop (p : Program) : Nat → Option Expression → Statement → Statement → Work Unit
  | 0, _, _, _ => exhausted
  | fuel + 1, test, onward, body => do
    let goesOn ← match test with
      | some test => pure (← eval p fuel test).isTrue
      | none => pure true
    if goesOn then
      if ← turnOf (exec p fuel body) then
        exec p fuel onward
        execLoop p fuel test onward body

def execEach (p : Program) : Nat → Chars → Statement → List Chars → Work Unit
  | 0, _, _, _ => exhausted
  | _, _, _, [] => pure ()
  | fuel + 1, name, body, key :: rest => do
    modify fun s => s.set name (.input key)
    if ← turnOf (exec p fuel body) then execEach p fuel name body rest

end

def Rule.applies (p : Program) (fuel : Nat) (r : Rule) (number : Nat) : Work Bool := do
  match r.pattern with
  | .atStart | .atEnd => pure false
  | .always => pure true
  | .test e => pure (← eval p fuel e).isTrue
  | .range first last =>
    let inside := (← get).active.contains number
    if inside || (← eval p fuel first).isTrue then
      let ends := (← eval p fuel last).isTrue
      modify fun s =>
        let others := s.active.filter (· ≠ number)
        { s with active := if ends then others else number :: others }
      pure true
    else pure false

def applyRules (p : Program) (fuel : Nat) : List (Rule × Nat) → Work Unit
  | [] => pure ()
  | (r, number) :: rest => do
    if ← r.applies p fuel number then exec p fuel r.action
    applyRules p fuel rest

def goThrough (p : Program) (fuel : Nat) : Nat → Work Unit
  | 0 => exhausted
  | count + 1 => do
    match ← nextRecord ((← get).operands.length + 2) with
    | none => pure ()
    | some record =>
      modify fun s => s.setRecord record
      try applyRules p fuel p.rules.zipIdx
      catch
        | .record => pure ()
        | leave => throw leave
      goThrough p fuel count

def applyAll (p : Program) (fuel : Nat) (chosen : Pattern → Bool) : List Rule → Work Unit
  | [] => pure ()
  | r :: rest => do
    if chosen r.pattern then exec p fuel r.action
    applyAll p fuel chosen rest

def Pattern.isStart : Pattern → Bool
  | .atStart => true
  | _ => false

def Pattern.isEnd : Pattern → Bool
  | .atEnd => true
  | _ => false

def codeOf (before : Option Float) (action : Work Unit) : Work (Option Float × Bool) := do
  try
    action
    pure (before, true)
  catch
    | .exit code => pure (code <|> before, false)
    | .failure message => throw (.failure message)
    | _ => pure (before, true)

/-- Runs a program to its end: the code that it ends with. An early end leaves out the
records, but not what is to be done at the end. -/
def Program.run (p : Program) (fuel : Nat) : Work Nat := do
  let (code, goesOn) ← codeOf none (applyAll p fuel Pattern.isStart p.rules)
  let reads := p.rules.any fun r => !r.pattern.isStart
  let (code, _) ← if reads && goesOn then codeOf code (goThrough p fuel fuel) else pure (code, true)
  let (code, _) ← if reads then codeOf code (applyAll p fuel Pattern.isEnd p.rules)
    else pure (code, true)
  pure ((wholeOf (code.getD 0.0)) % 256).toNat

end Provenance.Shell.Records
