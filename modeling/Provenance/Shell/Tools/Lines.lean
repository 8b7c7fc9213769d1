import Provenance.Shell.Class
import Provenance.Shell.Tools.Input

/-!
The tools that take texts apart into lines, and lines into fields.
-/

namespace Provenance.Shell.Tools

/-! Columns -/

/-- Places counted from one, as ranges that may have no end. -/
abbrev Places := List (Nat × Option Nat)

def places? (text : Chars) : Option Places :=
  (text.splitOn ',').mapM fun item =>
    let first := item.takeWhile Ascii.isDigit
    let rest := item.drop first.length
    let last := rest.drop 1
    let number (digits : Chars) : Nat := Ascii.numberOf 10 digits
    if item.isEmpty || !last.all Ascii.isDigit then none
    else if rest.isEmpty then some (number first, some (number first))
    else if rest.head? ≠ some '-' || (first.isEmpty && last.isEmpty) then none
    else some (if first.isEmpty then 1 else number first,
      if last.isEmpty then none else some (number last))

def Places.contains (p : Places) (place : Nat) : Bool :=
  p.any fun (first, last) => first ≤ place && last.all (place ≤ ·)

def choose {α : Type} (fits : Nat → Bool) (list : List α) : List α :=
  (list.zipIdx 1).filterMap fun (x, place) => if fits place then some x else none

def cut (arguments : List Chars) : Run Unit :=
  let choices := [⟨'b', "bytes", true⟩, ⟨'c', "characters", true⟩, ⟨'f', "fields", true⟩,
    ⟨'d', "delimiter", true⟩, ⟨'s', "only-delimited", false⟩, ⟨'n', "", false⟩,
    ⟨'!', "complement", false⟩, ⟨'o', "output-delimiter", true⟩]
  given "cut" 1 choices arguments fun g => do
    let chosen := (g.options.filter fun o => "bcf".toList.contains o.1).getLast?
    match chosen.bind fun o => (places? o.2).map (o.1, ·) with
    | none => report "cut" "you must specify a list of bytes, characters, or fields" 1
    | some (kind, places) =>
      let fits (place : Nat) : Bool := places.contains place != g.has '!'
      let divider := ((g.value? 'd').bind List.head?).getD '\t'
      let joint := (g.value? 'o').getD [divider]
      let change (line : Chars) : Option Chars :=
        if kind ≠ 'f' then some (choose fits line)
        else if line.contains divider then
          some (((choose fits (line.splitOn divider)).intersperse joint).flatten)
        else if g.has 's' then none else some line
      transform "cut" g.operands fun texts =>
        unlines ((texts.flatMap linesOf).filterMap change)

/-! Order -/

/-- The number in front of a text: its sign, and its digits before and behind the
point. -/
def leadingNumber (text : Chars) : Bool × Chars × Chars :=
  let text := text.dropWhile Class.isBlank
  let (negative, text) := match text with
    | '-' :: rest => (true, rest)
    | rest => (false, rest)
  let whole := text.takeWhile Ascii.isDigit
  let part := match text.drop whole.length with
    | '.' :: rest => rest.takeWhile Ascii.isDigit
    | _ => []
  (negative, whole, part)

def compareNumbers (a b : Chars) : Ordering :=
  let (x, xWhole, xPart) := leadingNumber a
  let (y, yWhole, yPart) := leadingNumber b
  let places := max xPart.length yPart.length
  let scaled (negative : Bool) (whole part : Chars) : Int :=
    let n : Int := Ascii.numberOf 10 (whole ++ part ++ List.replicate (places - part.length) '0')
    if negative then -n else n
  compare (scaled x xWhole xPart) (scaled y yWhole yPart)

def compareBytes (a b : Chars) : Ordering :=
  match a, b with
  | [], [] => .eq
  | [], _ => .lt
  | _, [] => .gt
  | c :: a, d :: b => if c = d then compareBytes a b else compare c.toNat d.toNat

/-- The rank of a character in a version: a tilde comes before the end, letters come
before other characters. -/
def versionRank : Option Char → Int
  | none => 0
  | some c =>
    if c = '~' then -1 else if Ascii.isDigit c then 0
    else if Ascii.isLetter c then c.toNat else c.toNat + 256

/-- Compares versions: what is no number character by character, and numbers by their
value. -/
def compareVersions : Nat → Chars → Chars → Ordering
  | 0, _, _ => .eq
  | fuel + 1, a, b =>
    let isMark (c : Char) : Bool := !Ascii.isDigit c
    match a.head?, b.head? with
    | none, none => .eq
    | x, y =>
      if x.any isMark || y.any isMark then
        if versionRank x = versionRank y then compareVersions fuel (a.drop 1) (b.drop 1)
        else compare (versionRank x) (versionRank y)
      else
        let first := a.takeWhile Ascii.isDigit
        let second := b.takeWhile Ascii.isDigit
        match compare (Ascii.numberOf 10 first) (Ascii.numberOf 10 second) with
        | .eq => compareVersions fuel (a.drop first.length) (b.drop second.length)
        | order => order

structure KeyEnd where
  field : Nat
  char : Option Nat

structure SortKey where
  first : KeyEnd
  last : Option KeyEnd
  options : Chars

namespace SortKey

def keyEnd (text : Chars) : KeyEnd × Chars :=
  let field := text.takeWhile Ascii.isDigit
  match text.drop field.length with
  | '.' :: rest =>
    let char := rest.takeWhile Ascii.isDigit
    (⟨Ascii.numberOf 10 field, some (Ascii.numberOf 10 char)⟩, rest.drop char.length)
  | rest => (⟨Ascii.numberOf 10 field, none⟩, rest)

/-- A key; without options of its own it has the given ones. -/
def ofText (usual : Chars) (text : Chars) : SortKey :=
  let (first, rest) := keyEnd text
  let options := rest.takeWhile (· ≠ ',')
  match rest.drop options.length with
  | ',' :: more =>
    let (last, rest) := keyEnd more
    let options := options ++ rest
    ⟨first, some last, if options.isEmpty then usual else options⟩
  | _ => ⟨first, none, if options.isEmpty then usual else options⟩

def fieldLength (divider : Option Char) (line : Chars) : Nat :=
  match divider with
  | some c => (line.takeWhile (· ≠ c)).length
  | none =>
    let blanks := line.takeWhile Class.isBlank
    blanks.length + ((line.drop blanks.length).takeWhile fun c => !Class.isBlank c).length

/-- How much of a line stands before a field, counted from one. -/
def fieldStart (divider : Option Char) (line : Chars) : Nat → Nat
  | 0 => 0
  | 1 => 0
  | field + 2 =>
    let start := fieldStart divider line (field + 1)
    let stop := start + fieldLength divider (line.drop start)
    min line.length (if divider.isSome then stop + 1 else stop)

def part (k : SortKey) (divider : Option Char) (line : Chars) : Chars :=
  let start (field : Nat) : Nat :=
    let start := fieldStart divider line field
    if k.options.contains 'b' || k.options.contains 'n' then
      start + ((line.drop start).takeWhile Class.isBlank).length
    else start
  let first := start k.first.field + (k.first.char.getD 1 - 1)
  let stop := match k.last with
    | none => line.length
    | some ⟨field, some (char + 1)⟩ => start field + char + 1
    | some ⟨field, _⟩ =>
      let start := fieldStart divider line field
      start + fieldLength divider (line.drop start)
  (line.take stop).drop first

def compare (k : SortKey) (divider : Option Char) (a b : Chars) : Ordering :=
  let text (line : Chars) : Chars :=
    let part := k.part divider line
    let part := if k.options.contains 'b' then part.dropWhile Class.isBlank else part
    let part := if k.options.contains 'd' then
        part.filter fun c => Class.isBlank c || Ascii.isAlphanumeric c else part
    if k.options.contains 'f' then
      part.map fun c => if Class.isLower c then Class.otherCase c else c
    else part
  let order :=
    if k.options.contains 'n' then compareNumbers (text a) (text b)
    else if k.options.contains 'V' then
      compareVersions ((text a).length + (text b).length + 1) (text a) (text b)
    else compareBytes (text a) (text b)
  if k.options.contains 'r' then order.swap else order

end SortKey

def firstOfSame (same : Chars → Chars → Bool) : List Chars → List Chars
  | a :: b :: rest =>
    if same a b then firstOfSame same (a :: rest) else a :: firstOfSame same (b :: rest)
  | rest => rest
termination_by lines => lines.length

/-- The first line that does not come behind the one before it, with its number. -/
def disorder? (inOrder : Chars → Chars → Bool) : Nat → List Chars → Option (Nat × Chars)
  | n, a :: b :: rest =>
    if inOrder a b then disorder? inOrder (n + 1) (b :: rest) else some (n + 1, b)
  | _, _ => none

def sort (arguments : List Chars) : Run Unit :=
  let choices := [⟨'n', "numeric-sort", false⟩, ⟨'r', "reverse", false⟩,
    ⟨'f', "ignore-case", false⟩, ⟨'b', "ignore-leading-blanks", false⟩,
    ⟨'d', "dictionary-order", false⟩, ⟨'V', "version-sort", false⟩, ⟨'u', "unique", false⟩,
    ⟨'s', "stable", false⟩, ⟨'k', "key", true⟩, ⟨'t', "field-separator", true⟩,
    ⟨'o', "output", true⟩, ⟨'c', "check", false⟩, ⟨'C', "", false⟩, ⟨'m', "merge", false⟩]
  given "sort" 2 choices arguments fun g => do
    let usual := (g.options.map Prod.fst).filter "nrfbdV".toList.contains
    let divider := (g.value? 't').bind List.head?
    let keys : List SortKey := match g.all 'k' with
      | [] => [⟨⟨1, none⟩, none, usual⟩]
      | keys => keys.map (SortKey.ofText usual)
    let byKeys (a b : Chars) : Ordering :=
      keys.foldl (fun order key => order.then (key.compare divider a b)) .eq
    let byAll (a b : Chars) : Ordering :=
      let last := compareBytes a b
      let last := if g.has 'r' then last.swap else last
      if g.has 's' || g.has 'u' then byKeys a b else (byKeys a b).then last
    let found ← texts "sort" g.operands
    let lines := found.flatMap fun entry => linesOf entry.2
    if found.length < g.operands.length then setStatus 2
    else if g.has 'c' || g.has 'C' then
      let inOrder (a b : Chars) : Bool := if g.has 'u' then byAll a b == .lt else (byAll a b).isLE
      match disorder? inOrder 1 lines with
      | none => setStatus 0
      | some (n, line) =>
        if g.has 'C' then setStatus 1
        else report "sort" ("-:" ++ toString n ++ ": disorder: " ++ textOf line) 1
    else
      let sorted := lines.mergeSort fun a b => (byAll a b).isLE
      let sorted := if g.has 'u' then firstOfSame (fun a b => byKeys a b == .eq) sorted else sorted
      match g.value? 'o' with
      | none => say (unlines sorted)
      | some name =>
        let before ← get
        if ← openSink 1 false (← pathOf name) then say (unlines sorted) else setStatus 2
        modify fun after => { after with channels := before.channels }

def runs (same : Chars → Chars → Bool) (lines : List Chars) : List (List Chars) :=
  lines.splitBy same

def uniq (arguments : List Chars) : Run Unit :=
  let choices := [⟨'c', "count", false⟩, ⟨'d', "repeated", false⟩, ⟨'u', "unique", false⟩,
    ⟨'i', "ignore-case", false⟩, ⟨'f', "skip-fields", true⟩, ⟨'s', "skip-chars", true⟩,
    ⟨'w', "check-chars", true⟩]
  given "uniq" 1 choices arguments fun g => do
    let key (line : Chars) : Chars :=
      let skipped := SortKey.fieldStart none line ((g.number? 'f').getD 0 + 1)
      let rest := (line.drop skipped).drop ((g.number? 's').getD 0)
      let rest := (g.number? 'w').elim rest rest.take
      if g.has 'i' then rest.map Ascii.lower else rest
    transform "uniq" (g.operands.take 1) fun texts =>
      let groups := runs (fun a b => key a = key b) (texts.flatMap linesOf)
      let wanted := groups.filter fun lines =>
        !(g.has 'd' && lines.length = 1) && !(g.has 'u' && 1 < lines.length)
      unlines (wanted.map fun lines =>
        (if g.has 'c' then padLeft 7 (decimal lines.length) ++ [' '] else []) ++ lines.headD [])

/-- Which lines two ordered texts have in common: the column of each line. -/
def common : Nat → List Chars → List Chars → List (Nat × Chars)
  | 0, _, _ => []
  | _, [], second => second.map (1, ·)
  | _, first, [] => first.map (0, ·)
  | fuel + 1, a :: first, b :: second =>
    match compareBytes a b with
    | .lt => (0, a) :: common fuel first (b :: second)
    | .gt => (1, b) :: common fuel (a :: first) second
    | .eq => (2, a) :: common fuel first second

def comm (arguments : List Chars) : Run Unit :=
  given "comm" 1 (flags "123") arguments fun g => do
    transform "comm" g.operands fun texts =>
      match texts.map linesOf with
      | [first, second] =>
        let shown := [!g.has '1', !g.has '2', !g.has '3']
        unlines ((common (first.length + second.length + 1) first second).filterMap
          fun (column, line) =>
            if shown[column]? = some true then
              some (List.replicate ((shown.take column).filter id).length '\t' ++ line)
            else none)
      | _ => []

/-! Lines one by one -/

def rev (arguments : List Chars) : Run Unit :=
  transform "rev" arguments fun texts => (texts.map (changeLines List.reverse)).flatten

def wholeLines (text : Chars) : List Chars :=
  let lines := (linesOf text).map fun line => line ++ ['\n']
  if isUnended text then lines.dropLast ++ (lines.getLast?.map List.dropLast).toList else lines

def tac (arguments : List Chars) : Run Unit :=
  transform "tac" arguments fun texts =>
    (texts.map fun text => (wholeLines text).reverse.flatten).flatten

def nl (arguments : List Chars) : Run Unit :=
  let choices := [⟨'b', "body-numbering", true⟩, ⟨'w', "number-width", true⟩,
    ⟨'s', "number-separator", true⟩, ⟨'v', "starting-line-number", true⟩,
    ⟨'i', "line-increment", true⟩, ⟨'n', "number-format", true⟩]
  given "nl" 1 choices arguments fun g => do
    let width := (g.number? 'w').getD 6
    let joint := (g.value? 's').getD ['\t']
    let step := (g.number? 'i').getD 1
    let numbered (line : Chars) : Bool :=
      match (g.value? 'b').bind List.head? with
      | some 'a' => true
      | some 'n' => false
      | _ => !line.isEmpty
    let written (n : Nat) : Chars :=
      let digits := decimal n
      match (g.value? 'n').map String.ofList with
      | some "ln" => digits ++ List.replicate (width - digits.length) ' '
      | some "rz" => List.replicate (width - digits.length) '0' ++ digits
      | _ => padLeft width digits
    transform "nl" g.operands fun texts =>
      let (lines, _) := (texts.flatMap linesOf).foldl (fun (done, n) line =>
        if numbered line then ((written n ++ joint ++ line) :: done, n + step)
        else ((List.replicate (width + joint.length) ' ' ++ line) :: done, n))
        ([], (g.number? 'v').getD 1)
      unlines lines.reverse

/-- Puts texts together, with the members of a list in turn between them. -/
def interleave (joints : Chars) : Nat → List Chars → Chars
  | _, [] => []
  | _, [last] => last
  | n, text :: rest =>
    text ++ (joints[n % joints.length]?).toList ++ interleave joints (n + 1) rest

def rows : Nat → List (List Chars) → List (List Chars)
  | 0, _ => []
  | count + 1, columns =>
    if columns.all List.isEmpty then []
    else columns.map (·.headD []) :: rows count (columns.map (·.drop 1))

def paste (arguments : List Chars) : Run Unit :=
  given "paste" 1 [⟨'d', "delimiters", true⟩, ⟨'s', "serial", false⟩] arguments fun g => do
    let rec joints : Chars → Chars
      | '\\' :: c :: rest => (escape [c]).1 :: joints rest
      | c :: rest => c :: joints rest
      | [] => []
    let joints := ((g.value? 'd').map joints).getD ['\t']
    let names := if g.operands.isEmpty then [['-']] else g.operands
    -- standard input is read once, and its lines go to its columns in turn
    let inputs := (names.filter (· = ['-'])).length
    let found ← texts "paste" (names.eraseDups)
    let lines (name : Chars) : List Chars := linesOf ((found.lookup name).getD [])
    let (columns, _) := names.foldl (fun (columns, seen) name =>
      if name = ['-'] && 1 < inputs && !g.has 's' then
        (columns.concat (((lines name).zipIdx.filter fun l => l.2 % inputs = seen).map Prod.fst),
          seen + 1)
      else (columns.concat (lines name), seen)) ([], 0)
    let longest := (columns.map List.length).foldl max 0
    let done := if g.has 's' then columns else rows longest columns
    say (unlines (done.map (interleave joints 0)))
    if found.length < names.eraseDups.length then setStatus 1

/-- Breaks a line into pieces of a width, behind the last blank of a piece if so asked. -/
def wrap (width : Nat) (atBlanks : Bool) : Nat → Chars → List Chars
  | 0, line => [line]
  | fuel + 1, line =>
    if line.length ≤ width || width = 0 then [line]
    else
      let piece := line.take width
      let kept := (piece.reverse.dropWhile (· ≠ ' ')).reverse
      let piece := if atBlanks && !kept.isEmpty then kept else piece
      piece :: wrap width atBlanks fuel (line.drop piece.length)

def fold (arguments : List Chars) : Run Unit :=
  let choices := [⟨'w', "width", true⟩, ⟨'s', "spaces", false⟩, ⟨'b', "bytes", false⟩]
  given "fold" 1 choices arguments fun g => do
    let width := (g.number? 'w').getD 80
    transform "fold" g.operands fun texts => (texts.map (changeLines fun line =>
      ((wrap width (g.has 's') line.length line).intersperse ['\n']).flatten)).flatten

end Provenance.Shell.Tools
