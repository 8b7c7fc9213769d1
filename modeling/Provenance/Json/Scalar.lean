import Provenance.Json.Shape
import Provenance.Number.Unsigned
import Provenance.Text.Basic

/-!
Two ways to read values: strictly, as they are, and leniently, for sources that have
little but texts. A lenient reader also takes what can be understood as the wanted
value: `"yes"` as true, `"8"` as a number, a number as its text.
-/

namespace Provenance.Shape

structure Values where
  boolean : Decoder Bool
  /-- A number below `2 ^ 64`; the text says what the number should be. -/
  unsigned : String → Decoder Nat
  text : String → Decoder String
  choice : {α : Type} → List (String × α) → Decoder α
  /-- Whether the array of a record may have surplus items. -/
  surplus : Bool

def strictValues : Values := ⟨boolean, unsigned, text, choice, false⟩

def Values.record {α : Type} (values : Values) (name : String) (closed : Bool)
    (fields : Fields α) : Decoder α := recordWith values.surplus name closed fields

namespace Lenient

def isYes (text : String) : Bool := ["true", "on", "yes"].contains text

def isNo (text : String) : Bool := ["false", "off", "no"].contains text

def folded (text : String) : String := String.ofList (text.toList.map Ascii.lower)

def boolean : Decoder Bool
  | .bool value => .ok value
  | .number (.int n) => .ok (n ≠ 0)
  | .number (.float x) => .ok (x.mantissa ≠ 0)
  | .string text =>
    let word := folded text
    if isYes word || word = "1" then .ok true
    else if isNo word || word = "0" then .ok false
    else wrongType (.string text) "a boolean"
  | other => wrongType other "a boolean"

/-- Whole numbers from `2 ^ 63` on count as their nearest binary64 number. -/
def counted : JsonNumber → JsonNumber
  | .int n =>
    if n < 2 ^ 63 then .int n else ((Binary64.ofNat? false n.toNat).map .float).getD (.int n)
  | .float x => .float x

def unsigned (expected : String) : Decoder Nat
  | .bool value => .ok value.toNat
  | .number n =>
    match counted n with
    | .float x => .ok (min x.nearestNat (2 ^ 64 - 1))
    | n => Shape.unsigned expected (.number n)
  | .string text =>
    let word := folded text
    if isYes word then .ok 1
    else if isNo word then .ok 0
    else
      match Unsigned.parse text.toList with
      | .ok n => .ok n
      | .error _ => wrongType (.string text) expected
  | other => wrongType other expected

/-- A number as text; whole numbers have no point. -/
def numberText : JsonNumber → String
  | .int n => toString n
  | .float x =>
    let text := x.plainText
    if text.endsWith ".0" then String.ofList (text.toList.take (text.length - 2)) else text

def text (expected : String) : Decoder String
  | .string text => .ok text
  | .bool value => .ok (toString value)
  | .number value => .ok (numberText (counted value))
  | other => wrongType other expected

def choice {α : Type} (choices : List (String × α)) : Decoder α
  | .string name => variant choices name
  | .object [(name, _)] => variant choices name
  | other => wrongType other "string or map"

end Lenient

def lenientValues : Values :=
  ⟨Lenient.boolean, Lenient.unsigned, Lenient.text, Lenient.choice, true⟩

end Provenance.Shape
