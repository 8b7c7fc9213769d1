import Provenance.Shell.Builtin
import Provenance.Shell.Class

/-!
What programs that run others make of their arguments: variables to set, and commands
from a text of arguments.
-/

namespace Provenance.Shell

def setVariables : Nat → List Chars → Run (Option (List Chars))
  | 0, _ => pure none
  | _, [] => pure (some [])
  | fuel + 1, word :: rest => do
    match word, rest with
    | ['-'], rest | ['-', 'i'], rest =>
      modify fun m => { m with exported := [] }
      setVariables fuel rest
    | ['-', '-'], rest => setVariables fuel rest
    | ['-', 'u'], name :: rest =>
      modify fun m => m.unset name
      setVariables fuel rest
    | '-' :: _, _ => pure none
    | word, rest =>
      if word.contains '=' then
        let (name, value) := declaration word
        modify fun m => { m.set name (value.getD []) with exported := name :: m.exported }
        setVariables fuel rest
      else pure (some (word :: rest))

def showEnvironment (names : List Chars) : Run Unit := do
  let m ← get
  if names.isEmpty then
    say (m.bindings.reverse.flatMap fun (name, value) =>
      if m.exported.contains name then name ++ '=' :: value ++ ['\n'] else [])
  else
    let found := names.filter fun name => m.exported.contains name && (m.get? name).isSome
    say (found.flatMap fun name => (m.get? name).getD [] ++ ['\n'])
    setStatus (if found.length < names.length then 1 else 0)

/-- The arguments in a text: quotes and backslashes keep blanks from dividing them. -/
def argumentsOf : Nat → Option Chars → Chars → List Chars
  | 0, current, _ => current.toList
  | _, current, [] => current.toList
  | fuel + 1, current, c :: rest =>
    let extended (text : Chars) : Option Chars := some (current.getD [] ++ text)
    match c, rest with
    | '\\', d :: rest => argumentsOf fuel (extended [d]) rest
    | c, rest =>
      if c = '\x27' || c = '\x22' then
        let inner := rest.takeWhile (· ≠ c)
        argumentsOf fuel (extended inner) (rest.drop (inner.length + 1))
      else if Class.isSpace c then current.toList ++ argumentsOf fuel none rest
      else argumentsOf fuel (extended [c]) rest

def parts (length : Nat) : Nat → List Chars → List (List Chars)
  | 0, list => [list]
  | fuel + 1, list =>
    if list.isEmpty then [] else list.take length :: parts length fuel (list.drop length)

def replaceMark (mark text : Chars) : Nat → Chars → Chars
  | 0, source => source
  | _, [] => []
  | fuel + 1, c :: rest =>
    if !mark.isEmpty && mark.isPrefixOf (c :: rest) then
      text ++ replaceMark mark text fuel ((c :: rest).drop mark.length)
    else c :: replaceMark mark text fuel rest

def commandsOf (g : Tools.Given) (text : Chars) : List (List Chars) :=
  let command := if g.operands.isEmpty then ["echo".toList] else g.operands
  let divider : Option Char := if g.has '0' then some '\x00' else
    (g.value? 'd').map fun text => if text.head? = some '\\' then (escape (text.drop 1)).1
      else text.headD '\n'
  match g.value? 'I' with
  | some mark => (Tools.linesOf text).filterMap fun line =>
    let line := line.dropWhile Class.isBlank
    if line.isEmpty then none
    else some (command.map fun word => replaceMark mark line word.length word)
  | none =>
    let arguments := match divider with
      | some c =>
        let pieces := text.splitOn c
        if pieces.getLast? = some [] then pieces.dropLast else pieces
      | none => argumentsOf (text.length + 1) none text
    if arguments.isEmpty then (if g.has 'r' then [] else [command])
    else
      let groups := match g.number? 'n', g.number? 'L' with
        | some n, _ => parts (max 1 n) (arguments.length + 1) arguments
        | none, some n =>
          let lines := parts (max 1 n) (text.length + 1) (Tools.linesOf text)
          lines.map fun (group : List Chars) =>
            group.flatMap fun (line : Chars) => argumentsOf (line.length + 1) none line
        | none, none => [arguments]
      groups.map (command ++ ·)

end Provenance.Shell
