import Provenance.Number.Unsigned
import Provenance.Text.Basic

/-!
Names of compiler releases such as `v0.8.9+commit.e5eed63a`: three numbers and
the commit of the build, given by at least one hex digit of its hash.
-/

namespace Provenance

/-- A compiler as its users name it. The commit is kept as written. -/
structure CompilerName where
  major : Nat
  minor : Nat
  patch : Nat
  commit : String
  deriving DecidableEq, Repr

namespace CompilerName

def commitMark : String := "+commit."

/-- Three numbers with points between them. -/
def version (name : CompilerName) : String :=
  toString name.major ++ "." ++ toString name.minor ++ "." ++ toString name.patch

def longVersion (name : CompilerName) : String := name.version ++ commitMark ++ name.commit

/-- Why a text is no compiler name. -/
inductive Fault where
  | badFormat (text : String)
  | badNumber (digits : String) (cause : Unsigned.Fault)
  deriving DecidableEq, Repr

def Fault.message : Fault → String
  | .badFormat text =>
    "invalid compiler name \"" ++ text ++ "\"; expected \"v?MAJOR.MINOR.PATCH+commit.<hex>\""
  | .badNumber digits cause =>
    "invalid version number \"" ++ digits ++ "\": " ++ cause.message

def number (text : String) (digits : List Char) : Except Fault Nat :=
  if digits.isEmpty || !digits.all Ascii.isDigit then .error (.badFormat text)
  else (Unsigned.parse digits).mapError (.badNumber (String.ofList digits))

/-- What follows one leading `v`, or the whole text. -/
def dropMark : List Char → List Char
  | 'v' :: rest => rest
  | text => text

def parse (text : String) : Except Fault CompilerName := do
  match Cut.once commitMark.toList (dropMark text.toList) with
  | none => .error (.badFormat text)
  | some (version, commit) =>
    if commit.isEmpty || !commit.all Ascii.isHexDigit then .error (.badFormat text)
    else
      match Cut.pieces (· = '.') version with
      | [major, minor, patch] =>
        let major ← number text major
        let minor ← number text minor
        let patch ← number text patch
        .ok ⟨major, minor, patch, String.ofList commit⟩
      | _ => .error (.badFormat text)

/-- Commits may be abbreviated differently, so two agree, case aside, if either
is the beginning of the other. -/
def matchesCommit (name : CompilerName) (commit : String) : Bool :=
  let own := name.commit.toList.map Ascii.lower
  let other := commit.toList.map Ascii.lower
  own.isPrefixOf other || other.isPrefixOf own

end CompilerName

end Provenance
