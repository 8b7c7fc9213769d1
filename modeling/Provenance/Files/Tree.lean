import Provenance.Bytes

/-!
A tree of files. Every file and directory has an entry under the names that lead
to it from the root, the root itself included, and a directory has an entry
before anything in it has one.
-/

namespace Provenance.Files

abbrev Place := List String

inductive Node where
  | file (content : Bytes) (executable : Bool)
  | directory
  deriving DecidableEq, Repr

inductive Fault where
  | notFound
  | notDirectory
  | isDirectory
  | exists
  | nameTooLong
  | badName
  deriving DecidableEq, Repr

def Fault.message : Fault → String
  | .notFound => "No such file or directory (os error 2)"
  | .notDirectory => "Not a directory (os error 20)"
  | .isDirectory => "Is a directory (os error 21)"
  | .exists => "File exists (os error 17)"
  | .nameTooLong => "File name too long (os error 36)"
  | .badName => "file name contained an unexpected NUL byte"

/-- A path extended by another: an absolute one stands for itself. -/
def joinPath (base name : String) : String :=
  if name.toList.head? = some '/' || base.isEmpty then name
  else if base.toList.getLast? = some '/' then base ++ name
  else base ++ "/" ++ name

structure Tree where
  entries : List (Place × Node)
  deriving Repr

namespace Tree

def empty : Tree := ⟨[([], .directory)]⟩

def node? (t : Tree) (place : Place) : Option Node := t.entries.lookup place

def set (t : Tree) (place : Place) (node : Node) : Tree :=
  if (t.node? place).isSome then
    ⟨t.entries.map fun entry => if entry.1 = place then (place, node) else entry⟩
  else ⟨t.entries ++ [(place, node)]⟩

def children (t : Tree) (place : Place) : List (String × Node) :=
  t.entries.filterMap fun (other, node) =>
    match other.reverse with
    | [] => none
    | name :: above => if above.reverse = place then some (name, node) else none

def maxName : Nat := 255

def maxPath : Nat := 4095

/-- Walks from a place along names. A point stays where it is, two points go up;
only from a directory is there a way on. -/
def walk (t : Tree) (place : Place) : List String → Except Fault Place
  | [] => .ok place
  | name :: rest =>
    match t.node? place with
    | none => .error .notFound
    | some (.file _ _) => .error .notDirectory
    | some .directory =>
      if name = "" || name = "." then walk t place rest
      else if name = ".." then walk t place.dropLast rest
      else if maxName < name.utf8ByteSize then .error .nameTooLong
      else walk t (place ++ [name]) rest

def namesOf (path : String) : List String :=
  (path.toList.splitOnP fun c => c = '/').map String.ofList

/-- The place that a path leads to, whether or not something is there. -/
def locate (t : Tree) (path : String) : Except Fault Place :=
  if path.isEmpty then .error .notFound
  else if path.toList.contains '\x00' then .error .badName
  else if maxPath < path.utf8ByteSize then .error .nameTooLong
  else t.walk [] (namesOf path)

def pathTo (place : Place) : String := "/" ++ "/".intercalate place

def resolve (t : Tree) (path : String) : Except Fault String := do
  let place ← t.locate path
  match t.node? place with
  | some _ => .ok (pathTo place)
  | none => .error .notFound

def find (t : Tree) (path : String) : Except Fault Node := do
  match t.node? (← t.locate path) with
  | some node => .ok node
  | none => .error .notFound

def read (t : Tree) (path : String) : Except Fault Bytes := do
  match ← t.find path with
  | .file content _ => .ok content
  | .directory => .error .isDirectory

def exists? (t : Tree) (path : String) : Except Fault Bool :=
  match t.find path with
  | .ok _ => .ok true
  | .error .notFound => .ok false
  | .error fault => .error fault

def list (t : Tree) (path : String) : Except Fault (List (String × Node)) := do
  let place ← t.locate path
  match t.node? place with
  | some .directory => .ok (t.children place)
  | some (.file _ _) => .error .notDirectory
  | none => .error .notFound

/-- Writes a file into a directory that is there. The mode of an old file stays. -/
def write (t : Tree) (path : String) (content : Bytes) : Except Fault Tree := do
  let place ← t.locate path
  match t.node? place with
  | some .directory => .error .isDirectory
  | some (.file _ executable) => .ok (t.set place (.file content executable))
  | none =>
    match t.node? place.dropLast with
    | some .directory => .ok (t.set place (.file content false))
    | some (.file _ _) => .error .notDirectory
    | none => .error .notFound

/-- Walks as `walk` does, but makes the directories that are missing. The end
has to be a directory. -/
def pave (t : Tree) (place : Place) : List String → Except Fault (Tree × Place)
  | [] =>
    match t.node? place with
    | none => .error .notFound
    | some (.file _ _) => .error .exists
    | some .directory => .ok (t, place)
  | name :: rest =>
    match t.node? place with
    | none => .error .notFound
    | some (.file _ _) => .error .notDirectory
    | some .directory =>
      if name = "" || name = "." then pave t place rest
      else if name = ".." then pave t place.dropLast rest
      else if maxName < name.utf8ByteSize then .error .nameTooLong
      else
        let next := place ++ [name]
        pave (if (t.node? next).isSome then t else t.set next .directory) next rest

/-- What making directories leaves that breaks off: they are made one by one, up to
the first that cannot be. -/
def paveFront (t : Tree) (place : Place) : List String → Tree
  | [] => t
  | name :: rest =>
    match t.pave place [name] with
    | .ok (t, next) => paveFront t next rest
    | .error _ => t

/-- Makes the directory at a path, with those above it. -/
def makeDirectories (t : Tree) (path : String) : Except Fault (Tree × Place) :=
  t.pave [] (namesOf path)

/-- What is left of making the directory at a path, if it cannot be made. -/
def makeFront (t : Tree) (path : String) : Tree := t.paveFront [] (namesOf path)

def plant (t : Tree) (path : String) (content : Bytes) (executable : Bool) :
    Except Fault Tree := do
  let names := (namesOf path).filter fun name => name ≠ "" && name ≠ "."
  let (t, above) ← t.pave [] names.dropLast
  let place := above ++ names.drop (names.length - 1)
  match t.node? place with
  | some .directory => .error .isDirectory
  | _ => .ok (t.set place (.file content executable))

def remove (t : Tree) (place : Place) : Tree :=
  ⟨t.entries.filter fun entry => entry.1 ≠ place⟩

/-- Moves a file to another place, over the file that may be there. -/
def move (t : Tree) (source target : Place) : Except Fault Tree :=
  match t.node? source, t.node? target, t.node? target.dropLast with
  | none, _, _ => .error .notFound
  | _, some .directory, _ => .error .isDirectory
  | _, _, none => .error .notFound
  | _, _, some (.file _ _) => .error .notDirectory
  | some node, _, some .directory => .ok ((t.remove source).set target node)

def freshName (t : Tree) (place : Place) : String :=
  let names := (List.range (t.entries.length + 1)).map fun n => ".tmp" ++ toString n
  (names.find? fun name => (t.node? (place ++ [name])).isNone).getD ".tmp"

end Tree

end Provenance.Files
