import Provenance.Domain.Rules
import Provenance.Domain.Punycode
import Provenance.Domain.Repertoire
import Provenance.Text.Composed

/-!
Domain names in ASCII. The characters of a name are brought into the form in which
names are compared, and the name is composed. A label with characters beyond ASCII
is written in Punycode; one that is so written already has to stand for such a label.
-/

namespace Provenance.Domain

def mark : List Char := ['x', 'n', '-', '-']

/-- The ASCII characters that no name may hold. -/
def isForbidden (c : Char) : Bool :=
  c.toNat ≤ 0x20 || c.toNat = 0x7F ||
    ['%', '#', '/', ':', '<', '>', '?', '@', '[', '\\', ']', '^', '|'].contains c

def maxLength : Nat := 1000

/-- The most characters of a label in Punycode, without its mark. -/
def maxWritten : Nat := 2000

def isAscii (label : List Char) : Bool := label.all fun c => c.toNat < 0x80

/-- Whether a label begins with no mark, joins its letters as they join, and is not
too long. -/
def isSound (label : List Char) : Bool :=
  !(label.head?.any Mark.isMark) && joinersFit [] label &&
    (isAscii label || label.length ≤ maxLength)

/-- Whether a label is already in the form in which names are compared. -/
def isSettled (label : List Char) : Bool :=
  (label.all fun c => form? c = some [c]) && Composed.ofText label = label

def readLabel? (label : List Char) : Option (List Char) :=
  match Cut.once mark label with
  | some ([], written) =>
    if !isAscii written || written.getLast?.all (· = '-') || maxWritten < written.length then none
    else (Punycode.decode? written).filter fun read => isSettled read && isSound read
  | _ => if isSound label then some label else none

def writeLabel (label : List Char) : List Char :=
  if isAscii label then label else mark ++ Punycode.encode label

def labels? (name : List Char) : Option (List (List Char)) := do
  let forms ← name.mapM form?
  let composed := Composed.ofText forms.flatten
  if composed.any isForbidden then none
  else
    let labels ← (Cut.pieces (· = '.') composed).mapM readLabel?
    if labels.any hasRight && !labels.all keepsDirection then none else some labels

def toAscii? (name : List Char) : Option (List Char) :=
  (labels? name).map fun labels => List.intercalate ['.'] (labels.map writeLabel)

end Provenance.Domain
