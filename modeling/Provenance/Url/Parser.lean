import Provenance.Url.Basic
import Provenance.Url.Path

/-!
Reading URLs, absolute or relative to a base. Blanks at the ends and all tabs
and line ends are dropped; in special schemes a backslash is a slash.
-/

namespace Provenance.Url

def scheme? (text : List Char) : Option (String × List Char) :=
  match text with
  | [] => none
  | first :: _ =>
    if !Ascii.isLetter first then none
    else
      let isSchemeChar (c : Char) : Bool :=
        Ascii.isAlphanumeric c || c = '+' || c = '-' || c = '.'
      match text.dropWhile isSchemeChar with
      | ':' :: rest => some (String.ofList ((text.takeWhile isSchemeChar).map Ascii.lower), rest)
      | _ => none

/-- A text without what no URL holds. -/
def clean (text : String) : List Char :=
  let isControl (c : Char) : Bool := c.toNat ≤ 0x20
  (Cut.dropEnd isControl (text.toList.dropWhile isControl)).filter fun c =>
    !(c = '\t' || c = '\n' || c = '\r')

def withQuery (url : Url) (rest : List Char) : Url :=
  let beforeHash := rest.takeWhile (· ≠ '#')
  let fragment := (rest.dropWhile (· ≠ '#')).tail?
  let part := if isSpecial url.scheme then Part.specialQuery else Part.query
  { url with
    query := if beforeHash.isEmpty then url.query
      else some (String.ofList (encode part beforeHash.tail))
    fragment := fragment.map fun f => String.ofList (encode .fragment f) }

def behindPath (text : List Char) : List Char := text.dropWhile fun c => !endsPath c

/-- A URL with the path that a text describes below another one, then query and
fragment. -/
def withPath (url : Url) (start text : List Char) : Url :=
  let walk := walkFrom (isSpecial url.scheme) (url.scheme = "file") start text
  withQuery { url with path := String.ofList walk.path } (behindPath text)

def skipSlash (special : Bool) : List Char → List Char
  | [] => []
  | c :: rest => if isSlash special c then rest else c :: rest

/-- The path behind an authority. A special scheme has no empty path. -/
def withPathStart (url : Url) (rest : List Char) : Url :=
  let special := isSpecial url.scheme
  if special || !(rest.isEmpty || rest.head?.any endsPath) then
    withPath url ['/'] (skipSlash special rest)
  else withQuery url rest

/-- The port behind a host, and what follows it: digits, or nothing. -/
def parsePort (scheme : String) (text : List Char) : Except Fault (Option Nat × List Char) :=
  let digits := text.takeWhile Ascii.isDigit
  let rest := text.dropWhile Ascii.isDigit
  let port := Ascii.numberOf 10 digits
  if 65535 < port || !(rest.isEmpty || rest.head? = some '\\') then .error .invalidPort
  else .ok (if digits.isEmpty || defaultPort scheme = some port then none else some port, rest)

/-- Cuts a host from its port at the first colon outside brackets. -/
def cutPort (bracket : Bool) : List Char → List Char × Option (List Char)
  | [] => ([], none)
  | c :: rest =>
    if c = ':' && !bracket then ([], some rest)
    else
      let (host, port) := cutPort (c = '[' || (c ≠ ']' && bracket)) rest
      (c :: host, port)

/-- User name and password, up to the last at sign of an authority. -/
def cutCredentials (authority : List Char) : Option (List Char) × List Char :=
  let host := (authority.reverse.takeWhile (· ≠ '@')).reverse
  if authority.contains '@' then
    (some (authority.take (authority.length - host.length - 1)), host)
  else (none, authority)

def parseAuthority (scheme : String) (text : List Char) : Except Fault Url := do
  let special := isSpecial scheme
  let ends (c : Char) : Bool := isSlash special c || endsPath c
  let authority := text.takeWhile fun c => !ends c
  let rest := text.dropWhile fun c => !ends c
  let (credentials, hostAndPort) := cutCredentials authority
  if credentials = some [] && hostAndPort.isEmpty && !rest.isEmpty then .error .emptyHost
  else
    let (hostText, portText) := cutPort false hostAndPort
    let user := (credentials.getD []).takeWhile (· ≠ ':')
    let password := ((credentials.getD []).dropWhile (· ≠ ':')).tail?.filter (!·.isEmpty)
    let named := !user.isEmpty || password.isSome
    if hostText.isEmpty && (special || portText.isSome) then .error .emptyHost
    else
      let host ← if hostText.isEmpty then .ok (Host.domain "") else Host.parse special hostText
      let (port, behind) ← parsePort scheme (portText.getD [])
      if hostText.isEmpty && named then .error .emptyHost
      else
        let encodeUser (t : List Char) : String := String.ofList (encode .userinfo t)
        let url : Url :=
          { scheme
            username := encodeUser user
            password := password.map encodeUser
            host := some host
            port }
        .ok (withPathStart url (behind ++ rest))

/-- What follows `file:` and two slashes. A drive letter is no host, and leaves no
room for one; the local host is dropped. -/
def parseFileHost (text : List Char) : Except Fault Url := do
  let ends (c : Char) : Bool := isSlash true c || endsPath c
  let hostText := text.takeWhile fun c => !ends c
  let (host, rest) ←
    if isDrive hostText then .ok (none, text)
    else do
      let host ← if hostText.isEmpty then .ok none else (Host.parse true hostText).map some
      .ok (host.filter (· ≠ .domain "localhost"), text.dropWhile fun c => !ends c)
  let path := skipSlash true rest
  let drive := (walkFrom true true ['/'] path).drive
  .ok (withPath { scheme := "file", host := if drive then none else host } ['/'] path)

/-- What follows `file:` and a single slash, the slash included. The drive or else the
host is that of the base. -/
def parseFileSlash (base : Option Url) (text : List Char) : Url :=
  let kept := base.filter fun _ => !beginsWithDrive text.tail
  let first := (kept.elim "" (·.path)).toList.tail.takeWhile (· ≠ '/')
  let start := if isPlainDrive first then '/' :: first else []
  let host := if isPlainDrive first then none else kept.bind (·.host)
  withPath { scheme := "file", host } start text

def parseFile (base : Option Url) (text : List Char) : Except Fault Url :=
  match text with
  | a :: rest =>
    if isSlash true a then
      match rest with
      | b :: behind =>
        if isSlash true b then parseFileHost behind else .ok (parseFileSlash base text)
      | [] => .ok (parseFileSlash base text)
    else
      match base with
      | none => .ok (withPath { scheme := "file" } ['/'] text)
      | some base =>
        if a = '?' then .ok (withQuery { base with query := none, fragment := none } text)
        else if a = '#' then .ok (withQuery { base with fragment := none } text)
        else if beginsWithDrive text then .ok (withPath { scheme := "file" } ['/'] text)
        else
          .ok (withPath { base with query := none, fragment := none }
            (popSegment true base.path.toList) text)
  | [] =>
    match base with
    | none => .ok (withPath { scheme := "file" } ['/'] [])
    | some base => .ok { base with fragment := none }

/-- A text relative to a base whose scheme is not `file`. -/
def parseRelative (base : Url) (text : List Char) : Except Fault Url :=
  let plain : Url := { base with query := none, fragment := none }
  match text with
  | [] => .ok { base with fragment := none }
  | '?' :: _ => .ok (withQuery plain text)
  | '#' :: _ => .ok (withQuery { base with fragment := none } text)
  | '/' :: '/' :: rest => parseAuthority base.scheme rest
  | c :: rest =>
    if isSlash true c then
      if rest.head?.any (isSlash true) then
        parseAuthority base.scheme (text.dropWhile (isSlash true))
      else .ok (withPath plain ['/'] rest)
    else
      let above := popSegment false base.path.toList
      .ok (withPath plain (if above.isEmpty then ['/'] else above) text)

def parseAbsolute (base : Option Url) (scheme : String) (text : List Char) : Except Fault Url :=
  if scheme = "file" then parseFile (base.filter (·.scheme = "file")) text
  else if isSpecial scheme then
    let slashes := text.takeWhile (isSlash true)
    match base.filter fun b => b.scheme = scheme && slashes.length < 2 with
    | some base => parseRelative base text
    | none => parseAuthority scheme (text.drop slashes.length)
  else
    match text with
    | '/' :: '/' :: rest => parseAuthority scheme rest
    | '/' :: rest => .ok (withPath { scheme } ['/'] rest)
    | _ =>
      let path := text.takeWhile fun c => !endsPath c
      .ok (withQuery { scheme, path := String.ofList (encode .opaquePath path) } (behindPath text))

def parseWith (base : Option Url) (text : String) : Except Fault Url :=
  let text := clean text
  match scheme? text with
  | some (scheme, rest) => parseAbsolute base scheme rest
  | none =>
    match base with
    | none => .error .relativeWithoutBase
    | some base =>
      if text.head? = some '#' then .ok (withQuery { base with fragment := none } text)
      else if base.isOpaque then .error .relativeWithOpaqueBase
      else if base.scheme = "file" then parseFile (some base) text
      else parseRelative base text

def parse (text : String) : Except Fault Url := parseWith none text

def join (base : Url) (text : String) : Except Fault Url := parseWith (some base) text

end Provenance.Url
