import Provenance.Text.Basic
import Provenance.Url.Percent

/-!
Paths of URLs. A path is read segment by segment, and the segments of dots are
resolved on the way. In a `file` URL the first segment may be a drive letter, which
is never left.
-/

namespace Provenance.Url

def isSingleDot (segment : List Char) : Bool :=
  let s := segment.map Ascii.lower
  s = ['.'] || s = "%2e".toList

def isDoubleDot (segment : List Char) : Bool :=
  let s := segment.map Ascii.lower
  ["..", ".%2e", "%2e.", "%2e%2e"].any fun d => d.toList = s

def isDrive : List Char → Bool
  | [letter, colon] => Ascii.isLetter letter && (colon = ':' || colon = '|')
  | _ => false

def isPlainDrive (text : List Char) : Bool := isDrive text && text.getLast? = some ':'

def beginsWithDrive (text : List Char) : Bool :=
  isDrive (text.take 2) &&
    match text.drop 2 with
    | [] => true
    | c :: _ => ['/', '\\', '?', '#'].contains c

def lastSegment (path : List Char) : List Char := (path.reverse.takeWhile (· ≠ '/')).reverse

def popSegment (file : Bool) (path : List Char) : List Char :=
  let last := lastSegment path
  if file && isPlainDrive last then path else path.take (path.length - last.length)

/-- A path without the slash at its end, unless that is the only slash or the one
behind the letter of a drive. -/
def dropSlash (path : List Char) : List Char :=
  if path.getLast? ≠ some '/' || !path.dropLast.contains '/' ||
      isDrive (lastSegment path.dropLast) then path
  else path.dropLast

def closePath (path : List Char) : List Char :=
  if path.getLast? = some '/' then path else path ++ ['/']

/-- A path as far as it has been read, and whether it began with a drive letter. -/
structure Walk where
  path : List Char
  drive : Bool := false

def Walk.add (file : Bool) (walk : Walk) (segment : List Char) (slash : Bool) : Walk :=
  let path := if file && !segment.isEmpty && isPlainDrive (walk.path.drop 1) then walk.path ++ ['/']
    else walk.path
  let behind := if slash then ['/'] else []
  if isDoubleDot segment then
    let above := popSegment file (dropSlash path)
    { walk with path := if slash then closePath above else above }
  else if isSingleDot segment then { walk with path := closePath path }
  else if file && path.length = 1 && isDrive segment then
    ⟨path ++ segment.take 1 ++ [':'] ++ behind, true⟩
  else { walk with path := path ++ encode .path segment ++ behind }

/-- Reads segments, the last of which has no slash behind it. -/
def Walk.addAll (file : Bool) (walk : Walk) : List (List Char) → Walk
  | [] => walk
  | [last] => walk.add file last false
  | segment :: rest => (walk.add file segment true).addAll file rest

def endsPath (c : Char) : Bool := c = '?' || c = '#'

def isSlash (special : Bool) (c : Char) : Bool := c = '/' || (special && c = '\\')

/-- The path that a text describes below another one. No segment of a `file` URL
stands empty in front. -/
def walkFrom (special file : Bool) (start text : List Char) : Walk :=
  let segments := Cut.pieces (isSlash special) (text.takeWhile fun c => !endsPath c)
  let walk := Walk.addAll file ⟨start, false⟩ segments
  if file then { walk with path := '/' :: walk.path.dropWhile (· = '/') } else walk

end Provenance.Url
