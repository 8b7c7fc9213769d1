import Provenance.Shell.Regex
import Provenance.Shell.Tools.Input

/-!
Finding lines by expressions.
-/

namespace Provenance.Shell.Tools

structure Search where
  patterns : List Regex
  ignoresCase : Bool
  /-- Whether only whole words count, or only whole lines. -/
  words : Bool
  wholeLines : Bool

namespace Search

/-- What is found first from a place onward. -/
def find? (s : Search) (line : Regex.Subject) (source : Nat) : Option Regex.Match :=
  let fits (start finish : Nat) : Bool :=
    if s.wholeLines then start = 0 && finish = line.chars.size
    else !s.words || Regex.isWhole line start finish
  s.patterns.foldl (fun best r =>
    match best, r.find? line source fits with
    | none, found => found
    | best, none => best
    | some a, some b =>
      let wins := b.start < a.start || (a.start = b.start && a.finish < b.finish)
      some (if wins then b else a)) none

def subject (s : Search) (line : Chars) : Regex.Subject := ⟨line.toArray, s.ignoresCase⟩

/-- All that is found in a line, apart from what is empty: where it begins, and it. -/
def findAll (s : Search) (line : Regex.Subject) : Nat → Nat → List (Nat × Chars)
  | 0, _ => []
  | fuel + 1, source =>
    match s.find? line source with
    | none => []
    | some m =>
      if m.finish ≤ m.start then findAll s line fuel (m.start + 1)
      else (m.start, line.slice m.start m.finish) :: findAll s line fuel m.finish

end Search

/-- An expression with the classes of digits written out, and without the marks of
groups that are not counted. -/
def spelledOut : Chars → Chars
  | '\\' :: 'd' :: rest => "[0-9]".toList ++ spelledOut rest
  | '\\' :: 'D' :: rest => "[^0-9]".toList ++ spelledOut rest
  | '\\' :: c :: rest => '\\' :: c :: spelledOut rest
  | '(' :: '?' :: ':' :: rest => '(' :: spelledOut rest
  | c :: rest => c :: spelledOut rest
  | [] => []

def search? (g : Given) (dialect : Char) (patterns : List Chars) : Option Search := do
  let chosen := ((g.options.map Prod.fst).filter "EFGP".toList.contains).getLast?.getD dialect
  let read (text : Chars) : Option Regex :=
    if chosen = 'F' then some (Regex.ofText text)
    else if chosen = 'P' then Regex.parse? .extended (spelledOut text)
    else Regex.parse? (if chosen = 'G' then .basic else .extended) text
  some ⟨← (patterns.flatMap fun p => p.splitOn '\n').mapM read, g.has 'i' || g.has 'y', g.has 'w',
    g.has 'x'⟩

structure Candidate where
  number : Nat
  offset : Nat
  line : Chars
  wanted : Bool

def candidates (s : Search) (inverted : Bool) (most : Option Nat) (text : Chars) :
    List Candidate :=
  let (found, _, _) := ((linesOf text).zipIdx 1).foldl (fun (found, offset, count) (line, number) =>
    if most = some count then (⟨number, offset, line, false⟩ :: found, offset, count)
    else
      let wanted := (s.find? (s.subject line) 0).isSome != inverted
      (⟨number, offset, line, wanted⟩ :: found, offset + line.length + 1,
        if wanted then count + 1 else count)) ([], 0, 0)
  found.reverse

/-- Keeps what is wanted, and so many lines before and behind it, with a mark of whether
lines are missing before one. -/
def surroundings (before behind : Nat) (lines : List Candidate) : List (Bool × Candidate) :=
  let wanted := (lines.filter (·.wanted)).map (·.number)
  let near := if before + behind = 0 then lines.filter (·.wanted) else lines.filter fun c =>
    wanted.any fun n => n ≤ c.number + before && c.number ≤ n + behind
  let numbers := 0 :: near.map (·.number)
  (near.zip numbers).map fun (c, last) => (last ≠ 0 && last + 1 < c.number, c)

structure SearchReport where
  label : Option Chars
  numbers : Bool
  offsets : Bool

def SearchReport.opening (r : SearchReport) (number offset : Nat) (mark : Char) : Chars :=
  (r.label.elim [] (· ++ [mark])) ++ (if r.numbers then decimal number ++ [mark] else []) ++
    (if r.offsets then decimal offset ++ [mark] else [])

def searchText (g : Given) (s : Search) (name : Chars) (labelled : Bool) (text : Chars) :
    Chars × Bool :=
  let all := candidates s (g.has 'v') (g.number? 'm') text
  let count := (all.filter (·.wanted)).length
  let title : Chars := if name = ['-'] then "(standard input)".toList else name
  let report : SearchReport := ⟨if labelled then some title else none, g.has 'n', g.has 'b'⟩
  let context := (g.number? 'C').getD 0
  let before := (g.number? 'B').getD context
  let behind := (g.number? 'A').getD context
  let written : Chars :=
    if g.has 'q' then []
    else if g.has 'l' then (if 0 < count then title ++ ['\n'] else [])
    else if g.has 'L' then (if count = 0 then title ++ ['\n'] else [])
    else if g.has 'c' then (report.label.elim [] (· ++ [':'])) ++ decimal count ++ ['\n']
    else if g.has 'o' then
      (all.filter (·.wanted)).flatMap fun c =>
        if g.has 'v' then []
        else ((s.findAll (s.subject c.line) (c.line.length + 1) 0).map fun (start, found) =>
          report.opening c.number (c.offset + start) ':' ++ found ++ ['\n']).flatten
    else (surroundings before behind all).flatMap fun (gap, c) =>
      (if gap && 0 < before + behind then "--\n".toList else []) ++
        report.opening c.number c.offset (if c.wanted then ':' else '-') ++ c.line ++ ['\n']
  let isBinary := text.contains '\x00' && !g.has 'a'
  let plain := g.has 'q' || g.has 'l' || g.has 'L' || g.has 'c'
  (if isBinary && !plain then [] else written, if g.has 'L' then count = 0 else 0 < count)

def searchChoices : List Choice :=
  [⟨'e', "regexp", true⟩, ⟨'f', "file", true⟩, ⟨'i', "ignore-case", false⟩,
    ⟨'v', "invert-match", false⟩, ⟨'w', "word-regexp", false⟩, ⟨'x', "line-regexp", false⟩,
    ⟨'c', "count", false⟩, ⟨'l', "files-with-matches", false⟩,
    ⟨'L', "files-without-match", false⟩, ⟨'m', "max-count", true⟩,
    ⟨'o', "only-matching", false⟩, ⟨'q', "quiet", false⟩, ⟨'q', "silent", false⟩,
    ⟨'s', "no-messages", false⟩, ⟨'n', "line-number", false⟩, ⟨'H', "with-filename", false⟩,
    ⟨'h', "no-filename", false⟩, ⟨'b', "byte-offset", false⟩, ⟨'a', "text", false⟩,
    ⟨'A', "after-context", true⟩, ⟨'B', "before-context", true⟩, ⟨'C', "context", true⟩,
    ⟨'E', "extended-regexp", false⟩, ⟨'F', "fixed-strings", false⟩,
    ⟨'G', "basic-regexp", false⟩, ⟨'P', "perl-regexp", false⟩, ⟨'!', "line-buffered", false⟩]

/-- Searches operands by expressions that are written in the given dialect if no option
says otherwise. -/
def grep (dialect : Char) (arguments : List Chars) : Run Unit :=
  given "grep" 2 searchChoices arguments fun g => do
    let ofFiles ← texts "grep" (if (g.all 'f').isEmpty then ["/dev/null".toList] else g.all 'f')
    let listed := g.all 'e' ++ ofFiles.flatMap fun entry => linesOf entry.2
    let (patterns, names) := if (g.all 'e' ++ g.all 'f').isEmpty then
        (g.operands.take 1, g.operands.drop 1) else (listed, g.operands)
    match search? g dialect patterns with
    | none => report "grep" "Invalid regular expression" 2
    | some s =>
      if patterns.isEmpty && (g.all 'f').isEmpty then report "grep" "no pattern" 2
      else
        let names := if names.isEmpty then [['-']] else names
        let arrived := (← get).input?.filter fun source => !source.stream.closed
        if let some source := arrived then
          -- a search that says nothing ends with the first line that it finds
          let text := Chars.ofBytes source.stream.arrived
          let lines := (linesOf text).take (text.filter (· = '\n')).length
          if names = [['-']] && g.has 'q' && (searchText g s ['-'] false (unlines lines)).2 then
            setStatus 0
            return
        let found ← texts "grep" names
        let labelled := (1 < names.length || g.has 'H') && !g.has 'h'
        let results := found.map fun (name, text) => searchText g s name labelled text
        let any := results.any (·.2)
        let failed := found.length < names.length
        say (results.flatMap (·.1))
        if failed && !(g.has 'q' && any) then setStatus 2
        else if !any then setStatus 1

end Provenance.Shell.Tools
