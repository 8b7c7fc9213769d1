import Provenance.Digest.Md5
import Provenance.Digest.Sha
import Provenance.Hex
import Provenance.Shell.Tools.Input

/-!
Texts by other signs: their digests, and their bytes as letters or as numbers.
-/

namespace Provenance.Shell.Tools

/-! Digests -/

def digests (tool : String) (digest : Bytes → Bytes) (arguments : List Chars) : Run Unit :=
  let choices := [⟨'b', "binary", false⟩, ⟨'t', "text", false⟩, ⟨'z', "zero", false⟩]
  given tool 1 choices arguments fun g => do
    let found ← texts tool g.operands
    say (found.flatMap fun (name, text) =>
      (Hex.encode (digest (Chars.toBytes text))).toList ++ ' ' ::
        (if g.has 'b' then '*' else ' ') :: name ++ [if g.has 'z' then '\x00' else '\n'])
    if found.length < g.operands.length then setStatus 1

def checksumStep (sum : UInt32) (byte : UInt8) : UInt32 :=
  (List.range 8).foldl (fun sum _ =>
    if sum &&& 0x80000000 = 0 then sum <<< 1 else (sum <<< 1) ^^^ 0x04C11DB7)
    (sum ^^^ (byte.toUInt32 <<< 24))

def lengthBytes : Nat → Nat → Bytes
  | 0, _ => []
  | fuel + 1, n => if n = 0 then [] else UInt8.ofNat n :: lengthBytes fuel (n / 256)

def checksum (bytes : Bytes) : UInt32 :=
  ~~~((bytes ++ lengthBytes 8 bytes.length).foldl checksumStep 0)

def cksum (arguments : List Chars) : Run Unit :=
  given "cksum" 1 [] arguments fun g => do
    let found ← texts "cksum" g.operands
    say (found.flatMap fun (name, text) =>
      decimal (checksum (Chars.toBytes text)).toNat ++ ' ' :: decimal text.length ++
        (if g.operands.isEmpty then [] else ' ' :: name) ++ ['\n'])
    if found.length < g.operands.length then setStatus 1

/-! Letters -/

def sixtyFour : Chars :=
  "ABCDEFGHIJKLMNOPQRSTUVWXYZabcdefghijklmnopqrstuvwxyz0123456789+/".toList

def toLetters : Chars → Chars
  | [] => []
  | [a] => letters a.toNat 0 0 2 ++ ['=', '=']
  | [a, b] => letters a.toNat b.toNat 0 3 ++ ['=']
  | a :: b :: c :: rest => letters a.toNat b.toNat c.toNat 4 ++ toLetters rest
where
  letters (a b c count : Nat) : Chars :=
    let n := a * 65536 + b * 256 + c
    ([n / 262144, n / 4096 % 64, n / 64 % 64, n % 64].take count).filterMap (sixtyFour[·]?)

/-- Four letters as three bytes at a time: the bytes, and whether all was right. -/
def ofLetters : Chars → Chars × Bool
  | [] => ([], true)
  | a :: b :: c :: d :: rest =>
    let digit (c : Char) : Nat := (sixtyFour.idxOf? c).getD 0
    let known (c : Char) : Bool := sixtyFour.contains c
    let n := digit a * 262144 + digit b * 4096 + digit c * 64 + digit d
    let bytes := [n / 65536, n / 256 % 256, n % 256].map Char.ofNat
    if !known a || !known b then ([], false)
    else if c = '=' && d = '=' then (bytes.take 1, rest.isEmpty)
    else if d = '=' then (if known c then (bytes.take 2, rest.isEmpty) else (bytes.take 1, false))
    else if !known c then (bytes.take 1, false)
    else if !known d then (bytes.take 2, false)
    else
      let (later, right) := ofLetters rest
      (bytes ++ later, right)
  | rest =>
    let n := rest.foldl (fun n c => n * 64 + (sixtyFour.idxOf? c).getD 0) 0
    match rest.length with
    | 2 => ([Char.ofNat (n / 16 % 256)], false)
    | 3 => ([n / 1024 % 256, n / 4 % 256].map Char.ofNat, false)
    | _ => ([], false)

def inLines (width : Nat) : Nat → Chars → Chars
  | 0, text => text
  | fuel + 1, text =>
    if text.isEmpty then [] else text.take width ++ '\n' :: inLines width fuel (text.drop width)

def base64 (arguments : List Chars) : Run Unit :=
  let choices := [⟨'d', "decode", false⟩, ⟨'i', "ignore-garbage", false⟩, ⟨'w', "wrap", true⟩]
  given "base64" 1 choices arguments fun g => do
    let found ← texts "base64" (g.operands.take 1)
    for (_, text) in found do
      if g.has 'd' then
        let letters := text.filter fun c =>
          c ≠ '\n' && (!g.has 'i' || c = '=' || sixtyFour.contains c)
        let (bytes, right) := ofLetters letters
        say bytes
        if !right then report "base64" "invalid input" 1
      else
        let letters := toLetters text
        let width := (g.number? 'w').getD 76
        say (if width = 0 then letters else inLines width (letters.length + 1) letters)

/-! Numbers -/

/-- How bytes are shown: so many together, as a number to a base, with a sign or without,
or as a character. -/
structure Shown where
  size : Nat
  base : Nat
  signed : Bool
  width : Nat
  zeros : Bool
  deriving DecidableEq, Repr

namespace Shown

def char : Shown := ⟨1, 0, false, 3, false⟩

/-- How many digits a number of so many bytes has at most. -/
def digits (base size : Nat) : Nat := (Nat.toDigits base (256 ^ size - 1)).length

def ofLetter? (letter : Char) (size : Nat) : Option Shown :=
  match letter with
  | 'x' => some ⟨size, 16, false, digits 16 size, true⟩
  | 'o' => some ⟨size, 8, false, digits 8 size, true⟩
  | 'u' => some ⟨size, 10, false, digits 10 size, false⟩
  | 'd' => some ⟨size, 10, true, digits 10 size + 1, false⟩
  | 'c' => some char
  | _ => none

def ofText? : Chars → Option Shown
  | [letter] => ofLetter? letter 4
  | letter :: size =>
    if size = ['C'] then ofLetter? letter 1
    else if size = ['S'] then ofLetter? letter 2
    else if size.all Ascii.isDigit then ofLetter? letter (max 1 (Ascii.numberOf 10 size))
    else none
  | [] => none

def charText (c : Char) : Chars :=
  match [('\x00', '0'), ('\x07', 'a'), ('\x08', 'b'), ('\x0c', 'f'), ('\n', 'n'), ('\x0d', 'r'),
      ('\t', 't'), ('\x0b', 'v')].lookup c with
  | some letter => ['\\', letter]
  | none =>
    if ' ' ≤ c && c ≤ '~' then [c]
    else
      let digits := Nat.toDigits 8 c.toNat
      List.replicate (3 - digits.length) '0' ++ digits

def text (s : Shown) (bytes : Chars) : Chars :=
  if s.base = 0 then padLeft 3 (charText (bytes.headD '\x00'))
  else
    let n := bytes.foldr (fun c n => n * 256 + c.toNat) 0
    let isNegative := s.signed && 256 ^ s.size ≤ 2 * n
    let digits := Nat.toDigits s.base (if isNegative then 256 ^ s.size - n else n)
    let digits := if isNegative then '-' :: digits else digits
    if s.zeros then List.replicate (s.width - digits.length) '0' ++ digits
    else padLeft s.width digits

def line (s : Shown) : Nat → Chars → Chars
  | 0, _ => []
  | fuel + 1, bytes =>
    if bytes.isEmpty then []
    else ' ' :: s.text (bytes.take s.size) ++ line s fuel (bytes.drop s.size)

end Shown

/-- Texts line by line as numbers, with their place in front. Lines that are the same
as the one before are left out if so asked. -/
def dump (kinds : List Shown) (address : Nat → Chars) (width : Nat) (all : Bool) :
    Nat → Nat → Option Chars → Bool → Chars → Chars
  | 0, _, _, _, _ => []
  | fuel + 1, place, last, starred, text =>
    let bytes := text.take width
    if bytes.isEmpty then
      let finish := address place
      if finish.isEmpty then [] else finish ++ ['\n']
    else
      let rest (starred : Bool) : Chars :=
        dump kinds address width all fuel (place + bytes.length) (some bytes) starred
          (text.drop width)
      if !all && last = some bytes && bytes.length = width then
        (if starred then [] else ['*', '\n']) ++ rest true
      else
        let start := address place
        let shown := kinds.mapIdx fun i kind =>
          let place := if i = 0 then start else start.map fun _ => ' '
          place ++ kind.line bytes.length bytes ++ ['\n']
        shown.flatten ++ rest false

def od (arguments : List Chars) : Run Unit :=
  let choices := flags "bcdoxv" ++ [⟨'A', "address-radix", true⟩, ⟨'t', "format", true⟩,
    ⟨'N', "read-bytes", true⟩, ⟨'j', "skip-bytes", true⟩, ⟨'w', "width", true⟩,
    ⟨'v', "output-duplicates", false⟩]
  given "od" 1 choices arguments fun g => do
    let kinds := g.options.filterMap fun (letter, value) =>
      match letter with
      | 't' => some (Shown.ofText? value)
      | 'b' => some (Shown.ofLetter? 'o' 1)
      | 'c' => some (some Shown.char)
      | 'd' => some (Shown.ofLetter? 'u' 2)
      | 'o' => some (Shown.ofLetter? 'o' 2)
      | 'x' => some (Shown.ofLetter? 'x' 2)
      | _ => none
    match (if kinds.isEmpty then [Shown.ofLetter? 'o' 2] else kinds).mapM id with
    | none => report "od" "invalid type string" 1
    | some kinds =>
      let base := match (g.value? 'A').bind List.head? with
        | some 'd' => some 10
        | some 'x' => some 16
        | some 'n' => none
        | _ => some 8
      let address (place : Nat) : Chars :=
        match base with
        | none => []
        | some base =>
          let digits := Nat.toDigits base place
          List.replicate ((if base = 16 then 6 else 7) - digits.length) '0' ++ digits
      let found ← texts "od" g.operands
      let text := (found.flatMap Prod.snd).drop ((g.number? 'j').getD 0)
      let text := (g.number? 'N').elim text text.take
      say (dump kinds address (max 1 ((g.number? 'w').getD 16)) (g.has 'v') (text.length + 1)
        ((g.number? 'j').getD 0) none false text)
      if found.length < g.operands.length then setStatus 1

end Provenance.Shell.Tools
