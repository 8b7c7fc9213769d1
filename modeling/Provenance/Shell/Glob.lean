import Provenance.Shell.Machine
import Provenance.Shell.Pattern

/-!
The paths of files that a pattern stands for.
-/

namespace Provenance.Shell.Glob

def names : Pattern → List Pattern
  | [] => [[]]
  | ('/', _) :: rest => [] :: names rest
  | entry :: rest =>
    match names rest with
    | [] => [[entry]]
    | first :: others => (entry :: first) :: others

def textOfPattern (pattern : Pattern) : Chars := pattern.map Prod.fst

def placed (directory : Option String) (path : Chars) : String :=
  let path := textOf path
  directory.elim path (Files.joinPath · path)

/-- The paths that go on from others by names that have a pattern. What begins with a
point is left out unless the pattern does too. -/
def extend (files : Files.Tree) (directory : Option String) (isLast : Bool) (pattern : Pattern)
    (path : Chars) : List Chars :=
  let finish : Chars := if isLast then [] else ['/']
  if !Pattern.isOpen pattern then [path ++ textOfPattern (Pattern.resolved pattern) ++ finish]
  else
    let above := placed directory (if path.isEmpty then ['.'] else path)
    let listed := ((files.list above).toOption.getD []).map fun entry => Chars.ofText entry.1
    let fitting := listed.filter fun name =>
      (name.head? ≠ some '.' || pattern.head?.any (·.1 = '.')) && Pattern.fits pattern name
    let sorted := fitting.mergeSort fun a b => decide (String.ofList a ≤ String.ofList b)
    sorted.map fun name => path ++ name ++ finish

def paths (files : Files.Tree) (directory : Option String) (pattern : Pattern) : List Chars :=
  let parts := names pattern
  let found := (parts.zipIdx 1).foldl (fun paths (part, place) =>
    paths.flatMap (extend files directory (place = parts.length) part)) [[]]
  found.filter fun path => (files.find (placed directory path)).isOk

def maySpread (field : Pattern) : Bool :=
  field.any fun (c, special) => special && (c = '*' || c = '?' || c = '[')

def fieldOrPaths (files : Files.Tree) (directory : Option String) (field : Pattern) :
    List Chars :=
  if maySpread field && Pattern.isOpen field then
    match paths files directory field with
    | [] => [textOfPattern field]
    | found => found
  else [textOfPattern field]

end Provenance.Shell.Glob
