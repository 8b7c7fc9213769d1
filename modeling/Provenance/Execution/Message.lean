import Provenance.Json.Reader
import Provenance.Json.Shape
import Provenance.Json.Writer

/-!
The messages of a worker process and of the one it works for. Each is a JSON
object that names its type, on a line of its own.
-/

namespace Provenance.Execution

inductive ParentMessage where
  | input (id : Nat) (compiler : String) (payload : Json)
  | shutdown

inductive WorkerMessage where
  | ready
  | output (id : Nat) (result : Json)

open Shape

/-- Reads an object that names its type, or an array that begins with it. The
rest of it is for the reader of that type. -/
def tagged {α : Type} (byType : List (String × Decoder α)) : Decoder α
  | .object members =>
    let ofType (tag : Json) : Except Mismatch α := do
      let decode ← choiceByName tag
      decode (.object (members.filter fun m => m.1 ≠ "type"))
    match members.filter fun m => m.1 = "type" with
    | [] => fail (.missingField "type")
    | [(_, tag)] => ofType tag
    | _ => fail (.duplicateField "type")
  | .array (tag :: rest) => do
    let decode ← choiceByName tag
    decode (.array rest)
  | .array [] => fail (.missingField "type")
  | other => wrongType other "internally tagged enum"
where
  choiceByName (tag : Json) : Except Mismatch (Decoder α) := do
    variant byType (← text "variant identifier" tag)

/-- A type without data: other members are ignored, items are not. -/
def bare {α : Type} (value : α) : Decoder α
  | .array (item :: rest) => fail (.surplusItems (item :: rest).length)
  | _ => .ok value

def sortedValue : Decoder Json := fun json => .ok json.sorted

namespace ParentMessage

def decode : Decoder ParentMessage := tagged [
  ("input", record "ParentMessage::Input" false
    (input <$> Fields.required "id" (unsigned "u64")
      <*> Fields.required "compilerFilename" string
      <*> Fields.required "payload" sortedValue)),
  ("shutdown", bare shutdown)]

def toJson : ParentMessage → Json
  | .input id compiler payload =>
    .object [("type", .string "input"), ("id", .nat id), ("compilerFilename", .string compiler),
      ("payload", payload)]
  | .shutdown => .object [("type", .string "shutdown")]

end ParentMessage

namespace WorkerMessage

def decode : Decoder WorkerMessage := tagged [
  ("ready", bare ready),
  ("output", record "ChildMessage::Output" false
    (output <$> Fields.required "id" (unsigned "u64")
      <*> Fields.required "result" sortedValue))]

def toJson : WorkerMessage → Json
  | .ready => .object [("type", .string "ready")]
  | .output id result =>
    .object [("type", .string "output"), ("id", .nat id), ("result", result)]

end WorkerMessage

def lineOf (message : Json) : Bytes := Bytes.ofText (message.compact ++ "\n")

mutual

def describeValue : Json → String
  | .null => "Null"
  | .bool value => "Bool(" ++ toString value ++ ")"
  | .number value => "Number(" ++ String.ofList (Json.numberText value) ++ ")"
  | .string text => "String(" ++ Quoted.text text ++ ")"
  | .array items => "Array [" ++ ", ".intercalate (describeItems items) ++ "]"
  | .object members =>
    "Object \x7b" ++ ", ".intercalate (describeMembers members) ++ "\x7d"

def describeItems : List Json → List String
  | [] => []
  | item :: rest => describeValue item :: describeItems rest

def describeMembers : List (String × Json) → List String
  | [] => []
  | (name, value) :: rest =>
    (Quoted.text name ++ ": " ++ describeValue value) :: describeMembers rest

end

def WorkerMessage.describe : WorkerMessage → String
  | .ready => "Ready"
  | .output id result =>
    "Output \x7b id: " ++ toString id ++ ", result: " ++ describeValue result ++ " \x7d"

end Provenance.Execution
