import Provenance.Shell.Class

/-!
Regular expressions as POSIX has them: how they are written, in the basic or in the
extended way, and where in a text they are found. What is found begins as early as it
can, and of what begins there the longest is taken.
-/

namespace Provenance.Shell

/-- A place between characters that an expression may ask for. -/
inductive Edge where
  | textStart | textEnd
  | wordStart | wordEnd | wordEdge | noWordEdge
  deriving DecidableEq, Repr

inductive Regex where
  | nothing
  | char (c : Char)
  | any
  | set (members : CharSet)
  | edge (edge : Edge)
  | sequence (first second : Regex)
  | choice (first second : Regex)
  | repeated (least : Nat) (most : Option Nat) (body : Regex)
  | group (number : Nat) (body : Regex)
  | again (number : Nat)
  deriving Repr

namespace Regex

/-! Reading -/

/-- How expressions are written: in the basic way, where braces, parentheses and some
other marks need a backslash, or in the extended way. -/
inductive Dialect where
  | basic
  | extended
  deriving DecidableEq, Repr

inductive Mark where
  | one (regex : Regex)
  | opening
  | closing
  | bar
  | times (least : Nat) (most : Option Nat) (text : Chars)
  deriving Repr

/-- The bounds in braces and what follows them, the closing brace being behind a
backslash in the basic way. -/
def bounds? (dialect : Dialect) (text : Chars) : Option (Nat × Option Nat × Chars) := do
  let least := text.takeWhile Ascii.isDigit
  let rest := text.drop least.length
  let (most, rest) : Option Nat × Chars ← match rest with
    | ',' :: rest =>
      let most := rest.takeWhile Ascii.isDigit
      some (if most.isEmpty then none else some (Ascii.numberOf 10 most), rest.drop most.length)
    | rest => if least.isEmpty then none else some (some (Ascii.numberOf 10 least), rest)
  match dialect, rest with
  | .basic, '\\' :: '\x7d' :: rest => some (Ascii.numberOf 10 least, most, rest)
  | .extended, '\x7d' :: rest => some (Ascii.numberOf 10 least, most, rest)
  | _, _ => none

def wordSet (negated : Bool) : Regex := .set ⟨negated, CharSet.rangesOf Class.isWord⟩

def spaceSet (negated : Bool) : Regex := .set ⟨negated, CharSet.rangesOf Class.isSpace⟩

def escaped (c : Char) : Regex :=
  match c with
  | 'w' => wordSet false
  | 'W' => wordSet true
  | 's' => spaceSet false
  | 'S' => spaceSet true
  | 'b' => .edge .wordEdge
  | 'B' => .edge .noWordEdge
  | '<' => .edge .wordStart
  | '>' => .edge .wordEnd
  | '\x60' => .edge .textStart
  | '\x27' => .edge .textEnd
  | c => if '1' ≤ c && c ≤ '9' then .again (c.toNat - '0'.toNat) else .char c

/-- The mark at the front of an expression, and what follows it. At the front of a
group, and only there, does `^` stand for the start in the basic way. -/
def markAt (dialect : Dialect) (atFront : Bool) : Chars → Option (Mark × Chars)
  | [] => none
  | '[' :: rest => do
    let (negated, inner) := match rest with
      | '^' :: inner => (true, inner)
      | inner => (false, inner)
    let (ranges, rest) ← CharSet.readRanges (fun _ => none) (inner.length + 1) true inner
    some (.one (.set ⟨negated, ranges⟩), rest)
  | '.' :: rest => some (.one .any, rest)
  | '*' :: rest => some (.times 0 none ['*'], rest)
  | '^' :: rest =>
    some (.one (if dialect = .extended || atFront then .edge .textStart else .char '^'), rest)
  | '$' :: rest =>
    let atEnd := match rest with
      | [] => true
      | '\\' :: ')' :: _ => true
      | '\\' :: '|' :: _ => true
      | _ => false
    some (.one (if dialect = .extended || atEnd then .edge .textEnd else .char '$'), rest)
  | '\\' :: c :: rest =>
    match dialect, c with
    | .basic, '(' => some (.opening, rest)
    | .basic, ')' => some (.closing, rest)
    | .basic, '|' => some (.bar, rest)
    | .basic, '+' => some (.times 1 none ['+'], rest)
    | .basic, '?' => some (.times 0 (some 1) ['?'], rest)
    | .basic, '\x7b' => (bounds? dialect rest).map fun (least, most, rest) =>
      (.times least most ['\x7b'], rest)
    | _, c => some (.one (escaped c), rest)
  | ['\\'] => none
  | c :: rest =>
    match dialect, c with
    | .extended, '(' => some (.opening, rest)
    | .extended, ')' => some (.closing, rest)
    | .extended, '|' => some (.bar, rest)
    | .extended, '+' => some (.times 1 none ['+'], rest)
    | .extended, '?' => some (.times 0 (some 1) ['?'], rest)
    | .extended, '\x7b' =>
      match bounds? dialect rest with
      | some (least, most, rest) => some (.times least most ['\x7b'], rest)
      | none => some (.one (.char c), rest)
    | _, c => some (.one (.char c), rest)

def marks (dialect : Dialect) : Nat → Bool → Chars → Option (List Mark)
  | 0, _, _ => none
  | _, _, [] => some []
  | fuel + 1, atFront, text => do
    let (mark, rest) ← markAt dialect atFront text
    let opens := match mark with
      | .opening | .bar => true
      | _ => false
    (marks dialect fuel opens rest).map (mark :: ·)

def withTimes (r : Regex) : List Mark → Regex × List Mark
  | .times least most _ :: rest => withTimes (.repeated least most r) rest
  | rest => (r, rest)

def isStart : Regex → Bool
  | .edge .textStart => true
  | _ => false

mutual

/-- Choices divided by bars; `count` groups have been opened before. -/
def choices : Nat → Nat → List Mark → Option (Regex × Nat × List Mark)
  | 0, _, _ => none
  | fuel + 1, count, marks => do
    let (first, count, rest) ← pieces fuel count marks
    match rest with
    | .bar :: rest =>
      let (second, count, rest) ← choices fuel count rest
      some (.choice first second, count, rest)
    | _ => some (first, count, rest)

def pieces : Nat → Nat → List Mark → Option (Regex × Nat × List Mark)
  | 0, _, _ => none
  | fuel + 1, count, marks =>
    let more (r : Regex) (count : Nat) (rest : List Mark) : Option (Regex × Nat × List Mark) := do
      let (r, rest) := if isStart r then (r, rest) else withTimes r rest
      let (later, count, rest) ← pieces fuel count rest
      some (match later with
        | .nothing => r
        | later => .sequence r later, count, rest)
    match marks with
    | [] | .bar :: _ | .closing :: _ => some (.nothing, count, marks)
    | .one r :: rest => more r count rest
    | .times _ _ text :: rest => more (.char (text.headD '*')) count rest
    | .opening :: rest => do
      let number := count + 1
      let (body, count, rest) ← choices fuel number rest
      match rest with
      | .closing :: rest => more (.group number body) count rest
      | _ => none

end

def parse? (dialect : Dialect) (text : Chars) : Option Regex := do
  let marks ← marks dialect (text.length + 1) true text
  match ← choices (4 * (marks.length + 1)) 0 marks with
  | (r, _, []) => some r
  | _ => none

def ofText (text : Chars) : Regex := text.foldr (fun c r => .sequence (.char c) r) .nothing

def looksBack : Regex → Bool
  | .again _ => true
  | .sequence a b | .choice a b => a.looksBack || b.looksBack
  | .repeated _ _ r | .group _ r => r.looksBack
  | _ => false

/-! Finding -/

structure Subject where
  chars : Array Char
  ignoresCase : Bool

/-- How far an expression has come, and what its groups have found: from where to
where, by their numbers. -/
structure Spot where
  place : Nat
  groups : List (Nat × Nat × Nat)
  deriving DecidableEq, Repr

def Spot.group? (s : Spot) (number : Nat) : Option (Nat × Nat) := s.groups.lookup number

/-- Whether what the groups have found is to be preferred: the first that differs
begins earlier, or is longer. -/
def Spot.precedes (s t : Spot) : Bool :=
  let numbers := List.range 10
  let differing := numbers.find? fun n => s.group? n ≠ t.group? n
  match differing.bind s.group?, differing.bind t.group? with
  | some (a, b), some (c, d) => a < c || (a = c && d < b)
  | some _, none => true
  | none, _ => false

abbrev Spots := Array (List Spot)

/-- Adds a spot, and says whether it is one more. Where groups are not looked at
again, only the best spot of a place is kept. -/
def Spots.insert (spots : Spots) (exact : Bool) (s : Spot) : Spots × Bool :=
  match spots[s.place]? with
  | none => (spots, false)
  | some [] => (spots.setIfInBounds s.place [s], true)
  | some (t :: others) =>
    if exact then
      if (t :: others).contains s then (spots, false)
      else (spots.setIfInBounds s.place (t :: others ++ [s]), true)
    else if s.precedes t then (spots.setIfInBounds s.place [s], false)
    else (spots, false)

/-- Spots without those that others make superfluous. -/
def merge (size : Nat) (exact : Bool) (spots : List Spot) : List Spot :=
  match spots with
  | [] | [_] => spots
  | spots =>
    let merged : Spots := spots.foldl (fun merged s => (merged.insert exact s).1)
      (Array.replicate (size + 1) [])
    merged.toList.flatten

/-- Adds what comes of repeating something as long as it leads to further spots. -/
def closure (exact : Bool) (step : List Spot → List Spot) : Nat → Spots → List Spot → Spots
  | 0, found, _ => found
  | fuel + 1, found, spots =>
    let (found, fresh) := (step spots).foldl (fun (found, fresh) s =>
      let (found, isFresh) := found.insert exact s
      (found, if isFresh then s :: fresh else fresh)) (found, [])
    if fresh.isEmpty then found else closure exact step fuel found fresh.reverse

def isWordAt (t : Subject) (place : Nat) : Bool := t.chars[place]?.any Class.isWord

def isEdge (t : Subject) (place : Nat) (edge : Edge) : Bool :=
  let before := 0 < place && isWordAt t (place - 1)
  let behind := isWordAt t place
  match edge with
  | .textStart => place = 0
  | .textEnd => place = t.chars.size
  | .wordStart => !before && behind
  | .wordEnd => before && !behind
  | .wordEdge => before != behind
  | .noWordEdge => before == behind

def admits? (ignoresCase : Bool) : Regex → Option (Char → Bool)
  | .char c => some fun d => c = d || (ignoresCase && Class.otherCase c = d)
  | .any => some fun _ => true
  | .set members => some fun d =>
    members.contains d || (ignoresCase && members.contains (Class.otherCase d))
  | _ => none

/-- The spots from one onward over characters that are admitted, at most so many. -/
def along (t : Subject) (admits : Char → Bool) (groups : List (Nat × Nat × Nat)) :
    Nat → Nat → List Spot
  | 0, place => [⟨place, groups⟩]
  | count + 1, place =>
    ⟨place, groups⟩ ::
      if t.chars[place]?.any admits then along t admits groups count (place + 1) else []

def iterate (step : List Spot → List Spot) : Nat → List Spot → List Spot
  | 0, spots => spots
  | count + 1, spots => if spots.isEmpty then [] else iterate step count (step spots)

def ends (t : Subject) (exact : Bool) : Regex → List Spot → List Spot
  | .nothing, spots => spots
  | .char c, spots => advance (.char c) spots
  | .any, spots => advance .any spots
  | .set members, spots => advance (.set members) spots
  | .edge e, spots => spots.filter fun s => isEdge t s.place e
  | .sequence a b, spots =>
    let middle := ends t exact a spots
    if middle.isEmpty then [] else ends t exact b middle
  | .choice a b, spots => merge t.chars.size exact (ends t exact a spots ++ ends t exact b spots)
  | .group number r, spots => merge t.chars.size exact (spots.flatMap fun s =>
      (ends t exact r [s]).map fun e =>
        ⟨e.place, (number, s.place, e.place) :: e.groups.filter fun g => g.1 ≠ number⟩)
  | .again number, spots => spots.filterMap fun s => do
    let (a, b) ← s.group? number
    let same := (List.range (b - a)).all fun i =>
      match t.chars[a + i]?, t.chars[s.place + i]? with
      | some c, some d => c = d || (t.ignoresCase && Class.otherCase c = d)
      | _, _ => false
    if same then some { s with place := s.place + (b - a) } else none
  | .repeated least most r, spots =>
    let first := iterate (ends t exact r) least spots
    let more := (most.map (· - least)).getD t.chars.size
    match admits? t.ignoresCase r with
    | some admits =>
      merge t.chars.size exact (first.flatMap fun s => along t admits s.groups more s.place)
    | none =>
      match first with
      | [] => []
      | first =>
        let found := first.foldl (fun found s => (Spots.insert found exact s).1)
          (Array.replicate (t.chars.size + 1) [])
        (closure exact (ends t exact r) more found first).toList.flatten
where
  advance (r : Regex) (spots : List Spot) : List Spot :=
    match admits? t.ignoresCase r with
    | some admits => spots.filterMap fun s =>
      if t.chars[s.place]?.any admits then some { s with place := s.place + 1 } else none
    | none => []

structure Match where
  start : Nat
  finish : Nat
  groups : List (Nat × Nat × Nat)
  deriving DecidableEq, Repr

/-- The first place from one onward where an expression is found, and the longest that
it finds there. What is found may have to fit a condition on its ends. -/
def find? (r : Regex) (t : Subject) (source : Nat) (fits : Nat → Nat → Bool) : Option Match :=
  let exact := r.looksBack
  (List.range (t.chars.size + 1 - source)).findSome? fun offset =>
    let start := source + offset
    let found := (ends t exact r [⟨start, []⟩]).filter fun s => fits start s.place
    let longest := found.foldl (fun best s =>
      match best with
      | none => some s
      | some b =>
        if b.place < s.place || (b.place = s.place && s.precedes b) then some s else best) none
    longest.map fun s => ⟨start, s.place, s.groups⟩

/-- Whether what stands between two places is no part of a longer word. -/
def isWhole (t : Subject) (start finish : Nat) : Bool :=
  !(0 < start && isWordAt t (start - 1)) && !isWordAt t finish

def Subject.slice (t : Subject) (start finish : Nat) : Chars :=
  (t.chars.extract start finish).toList

end Regex

end Provenance.Shell
