import Provenance.Files.Tree
import Provenance.Json.Reader
import Provenance.Runner.Settings
import Provenance.Text.Basic

/-!
Where settings come from: a file that a variable names, and other variables, each
of which sets one value and wins over the file. All a variable gives is text, so
values are read leniently. The names at the top of the file and those of variables
say the way to a value: `rpc.urls.1` leads through objects, `rpc[0]` to an item.
-/

namespace Provenance

abbrev Variable := String × String

namespace Config

def mark : List Char := "bytecode_verifier__".toList

def separator : List Char := "__".toList

def fileVariable : String := "BYTECODE_VERIFIER__CONFIG"

inductive Hop where
  | member (name : String)
  | item (index : Int)
  deriving DecidableEq, Repr

def isNameChar (c : Char) : Bool := Ascii.isAlphanumeric c || [' ', '_', '-'].contains c

def name? (text : List Char) : Option (Hop × List Char) :=
  let name := text.takeWhile isNameChar
  if name.isEmpty then none
  else some (.member (String.ofList name), text.dropWhile isNameChar)

/-- An index in front of a text, its opening bracket read, and what follows the
closing one. -/
def index? (text : List Char) : Option (Hop × List Char) :=
  let blank (c : Char) : Bool := c = ' ' || c = '\t'
  let text := text.dropWhile blank
  let negative := text.head? = some '-'
  let text := if negative then text.tail else text
  let digits := text.takeWhile Ascii.isDigit
  let size := Ascii.numberOf 10 digits
  let index : Int := if negative then -size else size
  match (text.dropWhile Ascii.isDigit).dropWhile blank with
  | ']' :: rest =>
    if digits.isEmpty || index < -(2 ^ 63) || 2 ^ 63 ≤ index then none
    else some (.item index, rest)
  | _ => none

/-- The steps behind the first one; there are at most as many as characters. -/
def furtherHops? : Nat → List Char → Option (List Hop)
  | _, [] => some []
  | 0, _ => none
  | steps + 1, c :: text => do
    let (hop, rest) ← if c = '.' then name? text else if c = '[' then index? text else none
    let hops ← furtherHops? steps rest
    some (hop :: hops)

/-- The way that a text describes. Any other text is itself the name of a member. -/
def wayOf (text : List Char) : List Hop :=
  let read := do
    let (hop, rest) ← name? text
    let hops ← furtherHops? rest.length rest
    some (hop :: hops)
  read.getD [.member (String.ofList text)]

def names : Nat → List Char → List (List Char)
  | 0, text => [text]
  | fuel + 1, text =>
    match Cut.once separator text with
    | some (name, rest) => name :: names fuel rest
    | none => [text]

/-- The small form of a character. Besides the capital letters one more character has a
letter for its small form, the sign of the unit kelvin; no name has any other. -/
def smallOf (c : Char) : Char := if c = '\u212a' then 'k' else Ascii.lower c

def wayOfVariable? (name : String) : Option (List Hop) :=
  let text := name.toList.map smallOf
  if name ≠ fileVariable && mark.isPrefixOf text then
    some (wayOf (List.intercalate ['.'] (names text.length (text.drop mark.length))))
  else none

def membersOf : Json → List (String × Json)
  | .object members => members
  | _ => []

def itemsOf : Json → List Json
  | .array items => items
  | _ => []

mutual

/-- A value put over what was in its place: the members of objects are put over each
other one by one. -/
def merged : Json → Option Json → Json
  | .object members, old => mergedMembers members (old.getD (.object []))
  | value, _ => value

def mergedMembers : List (String × Json) → Json → Json
  | [], old => old
  | (name, value) :: rest, old =>
    let inner := merged value (old.member? name)
    mergedMembers rest (.object (Json.insertMember name inner (membersOf old)))

end

/-- The place of an index in an array of some length, if there is one. Arrays grow,
but not without bound. -/
def place? (index : Int) (length : Nat) : Option Nat :=
  let place := if index < 0 then index + length else index
  if 0 ≤ place && place < 2 ^ 20 then some place.toNat else none

/-- Sets the value at the end of a way. Objects and arrays on the way are made where
there are none. -/
def put (value : Json) : List Hop → Json → Option Json
  | [], _ => some value
  | [.member name], json =>
    some (.object (Json.insertMember name (merged value (json.member? name)) (membersOf json)))
  | .member name :: rest, json => do
    let inner ← put value rest ((json.member? name).getD .null)
    some (.object (Json.insertMember name inner (membersOf json)))
  | .item index :: rest, json => do
    let place ← place? index (itemsOf json).length
    let items := itemsOf json ++ List.replicate (place + 1 - (itemsOf json).length) .null
    let inner ← put value rest ((items[place]?).getD .null)
    some (.array (items.set place inner))

def putMember (json : Json) (entry : String × Json) : Option Json :=
  put entry.2 (wayOf entry.1.toList) json

def putVariable (json : Json) (entry : Variable) : Option Json :=
  match wayOfVariable? entry.1 with
  | some way => put (.string entry.2) way json
  | none => some json

def fileMembers (environment : List Variable) (files : Files.Tree) :
    Option (List (String × Json)) :=
  match environment.lookup fileVariable with
  | none => some []
  | some path =>
    match (files.read path).toOption.bind fun content => (Json.read content).toOption with
    | some (.object members) => some members
    | _ => none

def document (environment : List Variable) (files : Files.Tree) : Option Json := do
  let members ← fileMembers environment files
  let document ← members.foldlM putMember (.object [])
  environment.foldlM putVariable document

end Config

def Settings.load (h : Host) (environment : List Variable) (files : Files.Tree) :
    Option Settings := do
  let document ← Config.document environment files
  let settings ← (decodeBy Shape.lenientValues h document).toOption
  settings.validate.toOption.map fun _ => settings

end Provenance
