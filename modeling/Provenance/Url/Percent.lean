import Provenance.Text.Basic
import Provenance.Text.Utf8

/-!
Percent-encoding. Each part of a URL has its own set of ASCII characters that
are encoded; controls and everything beyond ASCII always are, byte by byte.
-/

namespace Provenance.Url

inductive Part where
  | opaquePath
  | fragment
  | query
  | specialQuery
  | path
  | userinfo
  deriving DecidableEq, Repr

def Part.encoded : Part → List Char
  | .opaquePath => []
  | .fragment => [' ', '"', '<', '>', '`']
  | .query => [' ', '"', '#', '<', '>']
  | .specialQuery => [' ', '"', '#', '<', '>', '\'']
  | .path => [' ', '"', '#', '<', '>', '?', '`', '{', '}']
  | .userinfo =>
    [' ', '"', '#', '<', '>', '?', '`', '{', '}', '/', ':', ';', '=', '@', '[', '\\', ']', '^', '|']

def upperHexDigit (n : Nat) : Char :=
  if n < 10 then Char.ofNat (48 + n) else Char.ofNat (55 + n)

def encodeByte (byte : UInt8) : List Char :=
  ['%', upperHexDigit (byte.toNat / 16), upperHexDigit (byte.toNat % 16)]

def encodeChar (part : Part) (c : Char) : List Char :=
  if 0x20 ≤ c.toNat && c.toNat < 0x7F && !part.encoded.contains c then [c]
  else (Bytes.ofText (String.singleton c)).flatMap encodeByte

def encode (part : Part) (text : List Char) : List Char := text.flatMap (encodeChar part)

def decodeBytes : List Char → Bytes
  | '%' :: high :: low :: rest =>
    if Ascii.isHexDigit high && Ascii.isHexDigit low then
      UInt8.ofNat (16 * Ascii.hexValue high + Ascii.hexValue low) :: decodeBytes rest
    else 37 :: decodeBytes (high :: low :: rest)
  | c :: rest => Bytes.ofText (String.singleton c) ++ decodeBytes rest
  | [] => []

end Provenance.Url
