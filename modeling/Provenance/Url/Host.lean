import Provenance.Domain.Name
import Provenance.Url.Percent

/-!
Hosts of URLs: domain names, addresses of both versions of the protocol, and
the opaque hosts of schemes that are not special.
-/

namespace Provenance.Url

inductive Fault where
  | relativeWithoutBase
  | relativeWithOpaqueBase
  | invalidPort
  | emptyHost
  | invalidIpv4
  | invalidIpv6
  | invalidDomainCharacter
  | invalidDomain
  deriving DecidableEq, Repr

def Fault.message : Fault → String
  | .relativeWithoutBase => "relative URL without a base"
  | .relativeWithOpaqueBase => "relative URL with a cannot-be-a-base base"
  | .invalidPort => "invalid port number"
  | .emptyHost => "empty host"
  | .invalidIpv4 => "invalid IPv4 address"
  | .invalidIpv6 => "invalid IPv6 address"
  | .invalidDomainCharacter => "invalid domain character"
  | .invalidDomain => "invalid international domain name"

inductive Host where
  | domain (name : String)
  | ipv4 (address : Nat)
  | ipv6 (pieces : List Nat)
  deriving DecidableEq, Repr

/-- The characters no opaque host may hold. -/
def isForbidden (c : Char) : Bool :=
  ['\x00', '\t', '\n', '\r', ' ', '#', '/', ':', '<', '>', '?', '@', '[', '\\', ']', '^',
    '|'].contains c

/-- The labels of a domain name without the empty one behind a last point. -/
def labels (domain : List Char) : List (List Char) :=
  let all := Cut.pieces (· = '.') domain
  match all.reverse with
  | [] :: (earlier :: more) => (earlier :: more).reverse
  | _ => all

/-- A number of an address: hex behind `0x`, octal behind `0`, else decimal. -/
def addressNumber? (label : List Char) : Option Nat :=
  let read (base : Nat) (valid : Char → Bool) (digits : List Char) : Option Nat :=
    if digits.all valid then some (Ascii.numberOf base digits) else none
  match label with
  | [] => none
  | '0' :: 'x' :: digits => read 16 Ascii.isHexDigit digits
  | '0' :: 'X' :: digits => read 16 Ascii.isHexDigit digits
  | '0' :: digit :: digits => read 8 (fun c => '0' ≤ c && c ≤ '7') (digit :: digits)
  | digits => read 10 Ascii.isDigit digits

/-- Whether a name is meant as an address: its last label is a number. -/
def endsInNumber (domain : List Char) : Bool :=
  match (labels domain).getLast? with
  | none => false
  | some last =>
    (!last.isEmpty && last.all Ascii.isDigit) ||
      (match last with
        | '0' :: 'x' :: digits => digits.all Ascii.isHexDigit
        | '0' :: 'X' :: digits => digits.all Ascii.isHexDigit
        | _ => false)

def parseIpv4 (domain : List Char) : Except Fault Nat :=
  let parts := labels domain
  match (parts.mapM addressNumber?).map List.reverse with
  | some (last :: earlier) =>
    let filled := earlier.length
    if 3 < filled || earlier.any (fun n => 255 < n) || 256 ^ (4 - filled) ≤ last then
      .error .invalidIpv4
    else
      .ok (last + (earlier.reverse.zipIdx.foldl (fun acc (n, i) => acc + n * 256 ^ (3 - i)) 0))
  | _ => .error .invalidIpv4

/-- Four decimal numbers without leading zeros, as two pieces. -/
def embeddedIpv4 (text : List Char) : Option (List Nat) := do
  let parts := Cut.pieces (· = '.') text
  let numbers ← parts.mapM fun part =>
    if part.isEmpty || !part.all Ascii.isDigit || (part.length > 1 && part.head? = some '0') then
      none
    else
      let n := Ascii.numberOf 10 part
      if n ≤ 255 then some n else none
  match numbers with
  | [a, b, c, d] => some [256 * a + b, 256 * c + d]
  | _ => none

/-- The pieces between colons; the last may be an address of version four. -/
def ipv6Pieces : List (List Char) → Option (List Nat)
  | [] => some []
  | [last] =>
    if last.contains '.' then embeddedIpv4 last
    else if last.isEmpty || last.length > 4 || !last.all Ascii.isHexDigit then none
    else some [Ascii.numberOf 16 last]
  | piece :: rest =>
    if piece.isEmpty || piece.length > 4 || !piece.all Ascii.isHexDigit then none
    else (ipv6Pieces rest).map (Ascii.numberOf 16 piece :: ·)

def ipv6Side (text : List Char) : Option (List Nat) :=
  if text.isEmpty then some [] else ipv6Pieces (Cut.pieces (· = ':') text)

/-- An address of eight pieces, a run of zeros left out at most once. -/
def parseIpv6 (text : List Char) : Except Fault (List Nat) :=
  let result : Option (List Nat) :=
    match Cut.once [':', ':'] text with
    | none => do
      let pieces ← ipv6Side text
      if pieces.length = 8 then some pieces else none
    | some (before, behind) => do
      if before.contains '.' then none
      else
        let front ← ipv6Side before
        let back ← ipv6Side behind
        if front.length + back.length < 8 then
          some (front ++ List.replicate (8 - front.length - back.length) 0 ++ back)
        else none
  match result with
  | some pieces => .ok pieces
  | none => .error .invalidIpv6

def Host.parse (special : Bool) (text : List Char) : Except Fault Host :=
  match text with
  | '[' :: rest =>
    match rest.reverse with
    | ']' :: inner => (parseIpv6 inner.reverse).map .ipv6
    | _ => .error .invalidIpv6
  | _ =>
    if special then do
      let decoded := Utf8.decodeLenient (decodeBytes text)
      let some name := Domain.toAscii? decoded.toList | .error .invalidDomain
      if name.isEmpty then .error .emptyHost
      else if endsInNumber name then (parseIpv4 name).map .ipv4
      else .ok (.domain (String.ofList name))
    else if text.any isForbidden then .error .invalidDomainCharacter
    else .ok (.domain (String.ofList (encode .opaquePath text)))

/-- The first longest run of at least two zeros: its place and its length. -/
def zeroRun (pieces : List Nat) : Option (Nat × Nat) :=
  let runAt (i : Nat) : Nat := ((pieces.drop i).takeWhile (· = 0)).length
  (List.range pieces.length).foldl (fun best i =>
    let run := runAt i
    match best with
    | some (_, longest) => if longest < run then some (i, run) else best
    | none => if 2 ≤ run then some (i, run) else none) none

def ipv6Text (pieces : List Nat) : String :=
  let join (ps : List Nat) : String :=
    ":".intercalate (ps.map fun p => String.ofList (Nat.toDigits 16 p))
  match zeroRun pieces with
  | some (i, run) => join (pieces.take i) ++ "::" ++ join (pieces.drop (i + run))
  | none => join pieces

def Host.text : Host → String
  | .domain name => name
  | .ipv4 address =>
    ".".intercalate ([3, 2, 1, 0].map fun k => toString (address / 256 ^ k % 256))
  | .ipv6 pieces => "[" ++ ipv6Text pieces ++ "]"

end Provenance.Url
