import Provenance.Text.Basic

/-!
Tables of code points. A run is a row of code points, one behind the other or every
second one. It may have an image for its first point; the images of the others lie as
far apart as they do. A table is written in hex: `41-5A:61` for a row and its images,
`100/12E:101` for every second point, `AF:20.304` for a point whose image has two.
-/

namespace Provenance

structure Run where
  first : Nat
  last : Nat
  step : Nat
  image : List Nat
  deriving DecidableEq, Repr

namespace Run

def covers (run : Run) (n : Nat) : Bool :=
  run.first ≤ n && n ≤ run.last && (n - run.first) % run.step = 0

def ofToken (token : List Char) : Run :=
  let (points, image) := (Cut.once [':'] token).getD (token, [])
  let number := Ascii.numberOf 16
  let images := if image.isEmpty then [] else (Cut.pieces (· = '.') image).map number
  match Cut.once ['-'] points, Cut.once ['/'] points with
  | some (first, last), _ => ⟨number first, number last, 1, images⟩
  | none, some (first, last) => ⟨number first, number last, 2, images⟩
  | none, none => ⟨number points, number points, 1, images⟩

/-- The runs that lines of text list, with a space between two. -/
def table (lines : List String) : List Run :=
  lines.flatMap fun line => (Cut.pieces (· = ' ') line.toList).map ofToken

def cover (runs : List Run) (n : Nat) : Bool := runs.any (·.covers n)

def image? (runs : List Run) (n : Nat) : Option (List Nat) :=
  (runs.find? (·.covers n)).map fun run => run.image.map (· + (n - run.first))

end Run

end Provenance
