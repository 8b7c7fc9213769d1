import Provenance.Url.Host

/-!
URLs as the WHATWG standard has them, and their text.
-/

namespace Provenance

/-- A path is empty or begins with a slash, except that it may be any text if the
URL has no host. -/
structure Url where
  scheme : String
  username : String := ""
  password : Option String := none
  host : Option Url.Host := none
  port : Option Nat := none
  path : String := ""
  query : Option String := none
  fragment : Option String := none
  deriving DecidableEq, Repr

namespace Url

def specialSchemes : List (String × Option Nat) :=
  [("http", some 80), ("https", some 443), ("ws", some 80), ("wss", some 443), ("ftp", some 21),
    ("file", none)]

def isSpecial (scheme : String) : Bool := specialSchemes.any fun s => s.1 = scheme

def defaultPort (scheme : String) : Option Nat :=
  (specialSchemes.find? fun s => s.1 = scheme).bind Prod.snd

def isOpaque (url : Url) : Bool := url.host.isNone && url.path.toList.head? ≠ some '/'

def credentials (url : Url) : String :=
  if url.username = "" && url.password.isNone then ""
  else url.username ++ url.password.elim "" (":" ++ ·) ++ "@"

/-- The URL as text. A path that would look like a host is kept apart from one. -/
def text (url : Url) : String :=
  let authority :=
    match url.host with
    | some host =>
      "//" ++ url.credentials ++ host.text ++ url.port.elim "" (fun p => ":" ++ toString p)
    | none =>
      if url.scheme = "file" then "//"
      else
        match url.path.toList with
        | '/' :: '/' :: _ => "/."
        | _ => ""
  url.scheme ++ ":" ++ authority ++ url.path ++ url.query.elim "" ("?" ++ ·) ++
    url.fragment.elim "" ("#" ++ ·)

end Url

end Provenance
