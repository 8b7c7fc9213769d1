import Provenance.Execution.Basic
import Provenance.Text.Basic
import Provenance.Text.Utf8

/-!
Reading from a stream: all of it up to a limit, or line by line. A limit is a
word of sixty-four bits, and so is the number of bytes that are asked for, which
is one more to see that the limit is exceeded. Under the greatest limit this sum
overflows, and nothing is read.
-/

namespace Provenance.Execution

/-- What has arrived on a stream and was not read yet, and whether more can come. -/
structure Stream where
  arrived : Bytes
  closed : Bool
  deriving DecidableEq, Repr

def asked (limit : Nat) : Except Fault Nat :=
  if limit + 1 < 2 ^ 64 then .ok (limit + 1) else .error .overflow

/-- The whole content, unless it exceeds the limit. -/
def readCapped (content : Bytes) (limit : Nat) : Except Fault Bytes := do
  let read := content.take (← asked limit)
  if limit < read.length then .error (.tooLarge limit) else .ok read

/-- At most `count` bytes, up to the end of the first line, and the bytes behind
them. -/
def cutLine : Nat → Bytes → Bytes × Bytes
  | 0, bytes => ([], bytes)
  | _ + 1, [] => ([], [])
  | count + 1, byte :: rest =>
    if byte = 10 then ([byte], rest)
    else
      let (line, rest) := cutLine count rest
      (byte :: line, rest)

def endsLine (bytes : Bytes) : Bool := bytes.getLast? = some 10

/-- The next line, at most `count` bytes of it. There is none as long as more of
it may come. -/
def Stream.line? (s : Stream) (count : Nat) : Option (Bytes × Stream) :=
  let (line, rest) := cutLine count s.arrived
  if s.closed || endsLine line || count ≤ line.length then some (line, { s with arrived := rest })
  else none

/-- What comes next on a stream of messages: a message, its end, or nothing yet. -/
inductive Incoming (μ : Type) where
  | message (message : μ) (rest : Stream)
  | ended
  | failed (cause : Fault)
  | nothing

def parseMessage {μ : Type} (decode : Shape.Decoder μ) (line : String) : Except Fault μ :=
  let text := String.ofList (Cut.dropEnd Cut.isBlank line.toList)
  match Json.readDocument .whole (Bytes.ofText text) with
  | .error _ => .error (.breach .malformed)
  | .ok json => (decode json).mapError fun _ => .breach .malformed

def Stream.receive {μ : Type} (s : Stream) (decode : Shape.Decoder μ) (limit : Nat) :
    Incoming μ :=
  match asked limit with
  | .error cause => .failed cause
  | .ok count =>
    match s.line? count with
    | none => .nothing
    | some (line, rest) =>
      if line.isEmpty then .ended
      else
        match Utf8.decode? line with
        | none => .failed (.io "stream did not contain valid UTF-8")
        | some text =>
          if limit < line.length then .failed (.tooLarge limit)
          else
            match parseMessage decode text with
            | .ok message => .message message rest
            | .error cause => .failed cause

/-- The way out to the other side, and what has gone through. It may break once
a number of messages have passed. -/
structure Outlet (μ : Type) where
  written : List μ := []
  capacity : Option Nat := none

def Outlet.write {μ : Type} (o : Outlet μ) (message : μ) : Except Fault (Outlet μ) :=
  if o.capacity.any (· ≤ o.written.length) then .error (.io "Broken pipe (os error 32)")
  else .ok { o with written := o.written ++ [message] }

end Provenance.Execution
