import Provenance.Files.Tree
import Provenance.Shell.Tools.Table

/-!
What a path stands for as a program: a script of the shell, one of the tools, or a
program that runs another one.
-/

namespace Provenance.Shell

inductive Runner where
  | environment
  | arguments
  | timeout
  | plain (options : String)
  deriving DecidableEq, Repr

inductive Program where
  | script (text : Chars) (options : Chars)
  | tool (name : Chars) (arguments : List Chars)
  | runner (runner : Runner) (arguments : List Chars)
  | which
  | variables
  | shell
  deriving DecidableEq, Repr

inductive NoProgram where
  | notFound
  | notDirectory
  | notPermitted
  | noFormat
  deriving DecidableEq, Repr

def NoProgram.message : NoProgram → String
  | .notFound => "No such file or directory (os error 2)"
  | .notDirectory => "Not a directory (os error 20)"
  | .notPermitted => "Permission denied (os error 13)"
  | .noFormat => "Exec format error (os error 8)"

namespace Program

def directories : List String := ["/bin/", "/usr/bin/"]

def shells : List String := ["sh", "dash", "bash"]

def runners : List (String × Runner) :=
  [("env", .environment), ("xargs", .arguments), ("timeout", .timeout), ("nohup", .plain ""),
    ("nice", .plain "n"), ("setsid", .plain "f"), ("stdbuf", .plain "ioe")]

def withArguments (arguments : List Chars) : Program → Program
  | .tool name given => .tool name (given ++ arguments)
  | .runner kind given => .runner kind (given ++ arguments)
  | program => program

def ofName? (name : String) : Option Program :=
  if shells.contains name then some .shell
  else if name = "which" then some .which
  else if name = "printenv" then some .variables
  else
    match runners.lookup name with
    | some kind => some (.runner kind [])
    | none => (Tools.program? name.toList).map fun _ => .tool name.toList []

def ofHostPath? (path : String) : Option Program :=
  directories.findSome? fun directory =>
    if path.startsWith directory then ofName? (String.ofList (path.toList.drop directory.length))
    else none

def firstLine? (content : Chars) : Option (List Chars) :=
  match content with
  | '#' :: '!' :: rest =>
    let line := rest.takeWhile (· ≠ '\n')
    let line := line.dropWhile fun c => c = ' ' || c = '\t'
    let first := line.takeWhile fun c => c ≠ ' ' && c ≠ '\t'
    let rest := (line.drop first.length).dropWhile fun c => c = ' ' || c = '\t'
    let rest := (rest.reverse.dropWhile fun c => c = ' ' || c = '\t').reverse
    some (if rest.isEmpty then [first] else [first, rest])
  | _ => none

def ofContent (path content : Chars) : Except NoProgram Program :=
  match firstLine? content with
  | some (interpreter :: arguments) =>
    match ofHostPath? (textOf interpreter), arguments with
    | some .shell, [] => .ok (.script content [])
    | some .shell, argument :: _ =>
      .ok (.script content (if argument.head? = some '-' then argument.drop 1 else []))
    | some (.runner .environment _), argument :: _ =>
      if shells.contains (textOf argument) then .ok (.script content [])
      else .ok (.runner .environment (argument :: [path]))
    | some program, arguments => .ok (program.withArguments (arguments ++ [path]))
    | none, _ => .error .notFound
  | _ => .error .noFormat

def atPath (files : Files.Tree) (path : String) (name : Chars) : Except NoProgram Program :=
  match files.find path with
  | .ok (.file content true) => ofContent name (Chars.ofBytes content)
  | .ok _ => .error .notPermitted
  | .error .notDirectory => .error .notDirectory
  | .error _ =>
    match ofHostPath? path with
    | some program => .ok program
    | none => .error .notFound

def named (files : Files.Tree) (directory : Option String) (name : Chars) :
    Except NoProgram Program :=
  if name.contains '/' then
    atPath files (directory.elim (textOf name) (Files.joinPath · (textOf name))) name
  else
    match ofName? (textOf name) with
    | some program => .ok program
    | none => .error .notFound

end Program

end Provenance.Shell
