import Provenance.Json.Value
import Provenance.Text.Quoted

/-!
Reading typed data from JSON values. A failure names its cause and the path to
the value at fault. The members of an object count in the order in which they
stand: of several failures in one object the earliest is reported, and a missing
member only when nothing else is wrong.
-/

namespace Provenance.Shape

inductive Step where
  | member (name : String)
  | item (index : Nat)
  /-- A member whose name is itself typed data. -/
  | unnamed
  deriving DecidableEq, Repr

inductive Cause where
  | missingField (name : String)
  | duplicateField (name : String)
  | unknownField (name : String) (known : List String)
  | unknownVariant (name : String) (known : List String)
  | invalidType (found : String) (expected : String)
  | invalidValue (found : String) (expected : String)
  | invalidLength (length : Nat) (expected : String)
  /-- An array that gives a record has more items than the record has fields. -/
  | surplusItems (length : Nat)
  | custom (text : String)
  deriving DecidableEq, Repr

structure Mismatch where
  path : List Step
  cause : Cause
  deriving DecidableEq, Repr

abbrev Decoder (α : Type) := Json → Except Mismatch α

def ticked (name : String) : String := "`" ++ name ++ "`"

/-- The expected names: one, two, or one of many. -/
def oneOf : List String → String
  | [] => "there are no fields"
  | [a] => "expected " ++ ticked a
  | [a, b] => "expected " ++ ticked a ++ " or " ++ ticked b
  | names => "expected one of " ++ ", ".intercalate (names.map ticked)

def Cause.message : Cause → String
  | .missingField name => "missing field " ++ ticked name
  | .duplicateField name => "duplicate field " ++ ticked name
  | .unknownField name known => "unknown field " ++ ticked name ++ ", " ++ oneOf known
  | .unknownVariant name known => "unknown variant " ++ ticked name ++ ", " ++ oneOf known
  | .invalidType found expected => "invalid type: " ++ found ++ ", expected " ++ expected
  | .invalidValue found expected => "invalid value: " ++ found ++ ", expected " ++ expected
  | .invalidLength length expected =>
    "invalid length " ++ toString length ++ ", expected " ++ expected
  | .surplusItems length =>
    "invalid length " ++ toString length ++ ", expected fewer elements in array"
  | .custom text => text

/-- A path as text: names joined by points, indices in brackets, a point alone
for the whole value. -/
def pathText (path : List Step) : String :=
  let rec go (first : Bool) : List Step → String
    | [] => ""
    | .item index :: rest => "[" ++ toString index ++ "]" ++ go false rest
    | .member name :: rest => (if first then "" else ".") ++ name ++ go false rest
    | .unnamed :: rest => (if first then "" else ".") ++ "?" ++ go false rest
  if path.isEmpty then "." else go true path

def Mismatch.message (m : Mismatch) : String :=
  if m.path.isEmpty then m.cause.message else pathText m.path ++ ": " ++ m.cause.message

def describe : Json → String
  | .null => "null"
  | .bool value => "boolean " ++ ticked (toString value)
  | .number (.int value) => "integer " ++ ticked (toString value)
  | .number (.float value) => "floating point " ++ ticked value.text
  | .string text => "string " ++ Quoted.text text
  | .array _ => "sequence"
  | .object _ => "map"

def fail {α : Type} (cause : Cause) : Except Mismatch α := .error ⟨[], cause⟩

def wrongType {α : Type} (found : Json) (expected : String) : Except Mismatch α :=
  fail (.invalidType (describe found) expected)

def within {α : Type} (step : Step) (result : Except Mismatch α) : Except Mismatch α :=
  result.mapError fun m => { m with path := step :: m.path }

def any : Decoder Json := .ok

/-- A text; `expected` says what the text should be. -/
def text (expected : String) : Decoder String
  | .string text => .ok text
  | other => wrongType other expected

def string : Decoder String := text "a string"

def boolean : Decoder Bool
  | .bool value => .ok value
  | other => wrongType other "a boolean"

/-- A whole number that satisfies `fits`. -/
def integer (expected : String) (fits : Int → Bool) : Decoder Int
  | .number (.int value) =>
    if fits value then .ok value
    else fail (.invalidValue (describe (.number (.int value))) expected)
  | other => wrongType other expected

def unsigned (expected : String) : Decoder Nat := fun json =>
  (integer expected (fun n => 0 ≤ n ∧ n < 2 ^ 64) json).map Int.toNat

def signed (expected : String) : Decoder Int :=
  integer expected fun n => -(2 ^ 63) ≤ n ∧ n < 2 ^ 63

def optional {α : Type} (decode : Decoder α) : Decoder (Option α)
  | .null => .ok none
  | other => (decode other).map some

/-- Decodes items from the given index onward. -/
def items {α : Type} (decode : Decoder α) (index : Nat) : List Json → Except Mismatch (List α)
  | [] => .ok []
  | json :: rest => do
    let value ← within (.item index) (decode json)
    let values ← items decode (index + 1) rest
    .ok (value :: values)

def list {α : Type} (decode : Decoder α) : Decoder (List α)
  | .array elements => items decode 0 elements
  | other => wrongType other "a sequence"

/-- Decodes members, names included. A name may be typed data; then it does not
show in paths. -/
def members {κ α : Type} (step : String → Step) (name : String → Except Mismatch κ)
    (decode : Decoder α) : List (String × Json) → Except Mismatch (List (κ × α))
  | [] => .ok []
  | (key, json) :: rest => do
    let key' ← within (step key) (name key)
    let value ← within (step key) (decode json)
    let entries ← members step name decode rest
    .ok ((key', value) :: entries)

def table {α : Type} (decode : Decoder α) : Decoder (List (String × α))
  | .object entries => members .member .ok decode entries
  | other => wrongType other "a map"

def tableOf {κ α : Type} (step : String → Step) (name : String → Except Mismatch κ)
    (decode : Decoder α) : Decoder (List (κ × α))
  | .object entries => members step name decode entries
  | other => wrongType other "a map"

def variant {α : Type} (choices : List (String × α)) (name : String) : Except Mismatch α :=
  match choices.find? fun choice => choice.1 == name with
  | some (_, value) => .ok value
  | none => fail (.unknownVariant name (choices.map Prod.fst))

/-- A choice without data: its name, or an object that gives null for it. -/
def choice {α : Type} (choices : List (String × α)) : Decoder α
  | .string name => variant choices name
  | .object [(name, data)] => do
    let value ← variant choices name
    match data with
    | .null => .ok value
    | other => within (.member name) (wrongType other "unit")
  | .object _ => fail (.invalidValue "map" "map with a single key")
  | other => wrongType other "string or map"

abbrev Placed := Nat × Mismatch

/-- The fields of a record, each with a name, and how to read them from the
members of an object or from the items of an array. -/
structure Fields (α : Type) where
  names : List String
  ofMembers : List (String × Json) → Except Placed α
  /-- Reads from the items that start at an index; the text says what a full
  array would be. -/
  ofItems : String → Nat → List Json → Except Placed α

namespace Fields

def both {α β γ : Type} (f : α → β → γ) (left : Except Placed α) (right : Except Placed β) :
    Except Placed γ :=
  match left, right with
  | .ok a, .ok b => .ok (f a b)
  | .error e, .ok _ => .error e
  | .ok _, .error e => .error e
  | .error e, .error e' => if e'.1 < e.1 then .error e' else .error e

def occurrences (name : String) (members : List (String × Json)) : List (Nat × Json) :=
  members.zipIdx.filterMap fun ((key, json), place) =>
    if key = name then some (place, json) else none

/-- A field; `absent` is its value when it is missing, if it may be. -/
def field {α : Type} (name : String) (decode : Decoder α) (absent : Option α) : Fields α where
  names := [name]
  ofMembers members :=
    let read (place : Nat) (json : Json) : Except Placed α :=
      (within (.member name) (decode json)).mapError (place, ·)
    match occurrences name members with
    | [] =>
      match absent with
      | some value => .ok value
      | none => .error (members.length, ⟨[], .missingField name⟩)
    | [(place, json)] => read place json
    | (place, json) :: (next, _) :: _ => do
      let _ ← read place json
      .error (next, ⟨[], .duplicateField name⟩)
  ofItems expected index
    | [] =>
      match absent with
      | some value => .ok value
      | none => .error (index, ⟨[], .invalidLength index expected⟩)
    | json :: _ => (within (.item index) (decode json)).mapError (index, ·)

def required {α : Type} (name : String) (decode : Decoder α) : Fields α := field name decode none

def defaulted {α : Type} (name : String) (decode : Decoder α) (absent : α) : Fields α :=
  field name decode (some absent)

instance : Functor Fields where
  map f fields :=
    { names := fields.names
      ofMembers := fun members => (fields.ofMembers members).map f
      ofItems := fun expected index items => (fields.ofItems expected index items).map f }

instance : Seq Fields where
  seq left right :=
    let right := right ()
    { names := left.names ++ right.names
      ofMembers := fun members =>
        both (fun f a => f a) (left.ofMembers members) (right.ofMembers members)
      ofItems := fun expected index items =>
        both (fun f a => f a) (left.ofItems expected index items)
          (right.ofItems expected (index + left.names.length) (items.drop left.names.length)) }

def checkKnown (names : List String) (members : List (String × Json)) : Except Placed Unit :=
  match members.zipIdx.find? fun ((key, _), _) => !names.contains key with
  | some ((key, _), place) => .error (place, ⟨[.member key], .unknownField key names⟩)
  | none => .ok ()

end Fields

/-- A record given as an object or as an array of its fields. A closed record
has no other members. The array may have surplus items, if that is allowed. -/
def recordWith {α : Type} (surplus : Bool) (name : String) (closed : Bool) (fields : Fields α) :
    Decoder α
  | .object members =>
    let known := if closed then Fields.checkKnown fields.names members else .ok ()
    (Fields.both (fun a _ => a) (fields.ofMembers members) known).mapError Prod.snd
  | .array elements => do
    let count := fields.names.length
    let unit := if count = 1 then " element" else " elements"
    let expected := "struct " ++ name ++ " with " ++ toString count ++ unit
    let value ← (fields.ofItems expected 0 elements).mapError Prod.snd
    if count < elements.length && !surplus then fail (.surplusItems elements.length)
    else .ok value
  | other => wrongType other ("struct " ++ name)

/-- A record whose array has no surplus items. -/
def record {α : Type} (name : String) (closed : Bool) (fields : Fields α) : Decoder α :=
  recordWith false name closed fields

end Provenance.Shape
