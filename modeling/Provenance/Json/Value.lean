import Provenance.Number.Binary64

/-!
JSON values. An object keeps its members as a list. As read from a text they
stand in the order of the text, repeated names included; `Json.sorted` gives the
value such a text denotes: names in increasing order, the last member of a
repeated name.
-/

namespace Provenance

/-- A number: whole if it was written as one and fits sixty-four bits, signed or
unsigned, else the nearest binary64 number. -/
inductive JsonNumber where
  | int (value : Int)
  | float (value : Binary64)
  deriving DecidableEq, Repr

inductive Json where
  | null
  | bool (value : Bool)
  | number (value : JsonNumber)
  | string (value : String)
  | array (items : List Json)
  | object (members : List (String × Json))
  deriving BEq, Repr, Inhabited

namespace Json

def nat (n : Nat) : Json := .number (.int n)

/-- Puts a member into a sorted list of members, over one of the same name. -/
def insertMember (name : String) (value : Json) :
    List (String × Json) → List (String × Json)
  | [] => [(name, value)]
  | (other, old) :: rest =>
    if name < other then (name, value) :: (other, old) :: rest
    else if name = other then (name, value) :: rest
    else (other, old) :: insertMember name value rest

/-- Members in increasing order of their names; of members with one name the
last stays. -/
def sortMembers (members : List (String × Json)) : List (String × Json) :=
  members.foldl (fun acc (name, value) => insertMember name value acc) []

mutual

def sorted : Json → Json
  | .array items => .array (sortedItems items)
  | .object members => .object (sortMembers (sortedMembers members))
  | other => other

def sortedItems : List Json → List Json
  | [] => []
  | item :: rest => item.sorted :: sortedItems rest

def sortedMembers : List (String × Json) → List (String × Json)
  | [] => []
  | (name, value) :: rest => (name, value.sorted) :: sortedMembers rest

end

def member? (json : Json) (name : String) : Option Json :=
  match json with
  | .object members => (members.find? fun m => m.1 == name).map Prod.snd
  | _ => none

def string? : Json → Option String
  | .string text => some text
  | _ => none

end Json

end Provenance
