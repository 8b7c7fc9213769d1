import Provenance.Shell.Tools.Input

/-!
The tools that take paths apart, and those that make, move and remove files.
-/

namespace Provenance.Shell.Tools

/-! Names -/

def withoutEnd (name : Chars) : Chars :=
  let rest := (name.reverse.dropWhile (· = '/')).reverse
  if rest.isEmpty then name.take 1 else rest

def lastName (path : Chars) : Chars :=
  let last := ((withoutEnd path).reverse.takeWhile (· ≠ '/')).reverse
  if last.isEmpty then withoutEnd path else last

/-- A name without an ending, unless it is nothing else. -/
def withoutEnding (ending name : Chars) : Chars :=
  if name = ending || !ending.isSuffixOf name then name
  else name.take (name.length - ending.length)

def basename (arguments : List Chars) : Run Unit := do
  let choices := [⟨'a', "multiple", false⟩, ⟨'s', "suffix", true⟩, ⟨'z', "zero", false⟩]
  match split choices true (arguments.length + 1) arguments with
  | none => report "basename" "invalid option" 1
  | some g =>
    let many := g.has 'a' || g.has 's'
    let mark := if g.has 'z' then '\x00' else '\n'
    match g.operands with
    | [] => report "basename" "missing operand" 1
    | name :: rest =>
      if many then
        let ending := (g.value? 's').getD []
        say (g.operands.flatMap fun name => withoutEnding ending (lastName name) ++ [mark])
      else if 1 < rest.length then report "basename" "extra operand" 1
      else say (withoutEnding (rest.headD []) (lastName name) ++ [mark])

def dirname (arguments : List Chars) : Run Unit := do
  match split [⟨'z', "zero", false⟩] true (arguments.length + 1) arguments with
  | none => report "dirname" "invalid option" 1
  | some g =>
    let mark := if g.has 'z' then '\x00' else '\n'
    if g.operands.isEmpty then report "dirname" "missing operand" 1
    else
      say (g.operands.flatMap fun name =>
        let above := (withoutEnd name).reverse.dropWhile (· ≠ '/')
        (if above.isEmpty then ['.'] else withoutEnd above.reverse) ++ [mark])

def realpath (tool : String) (arguments : List Chars) : Run Unit :=
  let choices := [⟨'f', "canonicalize", false⟩, ⟨'e', "canonicalize-existing", false⟩,
    ⟨'m', "canonicalize-missing", false⟩, ⟨'n', "no-newline", false⟩, ⟨'q', "quiet", false⟩]
  given tool 1 choices arguments fun g => do
    for name in g.operands do
      match (← get).files.locate (← pathOf name) with
      | .ok place =>
        let found := ((← get).files.node? place).isSome
        let above := ((← get).files.node? place.dropLast).isSome
        -- a link is read only where all that leads to a file is asked for
        if (tool = "readlink" && g.options.isEmpty) || !(found || (above && !g.has 'e')) then
          setStatus 1
        else
          say (Chars.ofText (Files.Tree.pathTo place) ++ if g.has 'n' then [] else ['\n'])
      | .error _ => setStatus 1

/-! Files -/

def placeOf (name : Chars) : Run (Option (Files.Place × Option Files.Node)) := do
  let path ← pathOf name
  let files := (← get).files
  pure ((files.locate path).toOption.map fun place => (place, files.node? place))

def eachOperand (tool : String) (operands : List Chars) (use : Chars → Run (Option String)) :
    Run Unit := do
  if operands.isEmpty then report tool "missing operand" 1
  else
    let mut failed := false
    for name in operands do
      match ← use name with
      | none => pure ()
      | some fault =>
        report tool ("'" ++ textOf name ++ "': " ++ fault) 1
        failed := true
    setStatus (if failed then 1 else 0)

def mkdir (arguments : List Chars) : Run Unit :=
  given "mkdir" 1 [⟨'p', "parents", false⟩, ⟨'v', "verbose", false⟩, ⟨'m', "mode", true⟩]
    arguments fun g => eachOperand "mkdir" g.operands fun name => do
      let files := (← get).files
      if g.has 'p' then
        let path ← pathOf name
        match files.makeDirectories path with
        | .ok (files, _) => modify fun m => { m with files }; pure none
        | .error _ =>
          modify fun m => { m with files := files.makeFront path }
          pure (some "File exists")
      else
        match ← placeOf name with
        | some (_, some _) => pure (some "File exists")
        | some (place, none) =>
          match files.node? place.dropLast with
          | some .directory =>
            modify fun m => { m with files := files.set place .directory }
            pure none
          | _ => pure (some "No such file or directory")
        | none => pure (some "No such file or directory")

def withoutPlace (files : Files.Tree) (place : Files.Place) : Files.Tree :=
  ⟨files.entries.filter fun entry => !place.isPrefixOf entry.1⟩

def rm (arguments : List Chars) : Run Unit :=
  let choices := [⟨'r', "recursive", false⟩, ⟨'R', "", false⟩, ⟨'f', "force", false⟩,
    ⟨'d', "dir", false⟩, ⟨'v', "verbose", false⟩, ⟨'i', "", false⟩]
  given "rm" 1 choices arguments fun g =>
    if g.operands.isEmpty && g.has 'f' then setStatus 0
    else eachOperand "rm" g.operands fun name => do
      let files := (← get).files
      match ← placeOf name with
      | some (place, some node) =>
        let isEmpty := (files.children place).isEmpty
        if node = .directory && !(g.has 'r' || g.has 'R' || (g.has 'd' && isEmpty)) then
          pure (some "Is a directory")
        else
          modify fun m => { m with files := withoutPlace files place }
          pure none
      | _ => pure (if g.has 'f' then none else some "No such file or directory")

def rmdir (arguments : List Chars) : Run Unit :=
  given "rmdir" 1 [⟨'p', "parents", false⟩] arguments fun g =>
    eachOperand "rmdir" g.operands fun name => do
      let files := (← get).files
      match ← placeOf name with
      | some (place, some .directory) =>
        if (files.children place).isEmpty then
          modify fun m => { m with files := files.remove place }
          pure none
        else pure (some "Directory not empty")
      | some (_, some _) => pure (some "Not a directory")
      | _ => pure (some "No such file or directory")

def touch (arguments : List Chars) : Run Unit :=
  given "touch" 1 (flags "acm" ++ values "dtr") arguments fun g =>
    eachOperand "touch" g.operands fun name => do
      match ← placeOf name with
      | some (_, some _) => pure none
      | _ =>
        if g.has 'c' then pure none
        else
          match (← get).files.write (← pathOf name) [] with
          | .ok files => modify fun m => { m with files }; pure none
          | .error _ => pure (some "No such file or directory")

def targetPlace (name target : Chars) : Run (Option Files.Place) := do
  match ← placeOf target with
  | some (place, some .directory) => pure (some (place ++ [textOf (lastName name)]))
  | some (place, _) => pure (some place)
  | none => pure none

/-- Copies or moves all operands but the last to where that leads. -/
def transfer (tool : String) (choices : List Choice) (arguments : List Chars)
    (use : Given → Files.Tree → Files.Place → Files.Place → Except String Files.Tree) : Run Unit :=
  given tool 1 choices arguments fun g => do
    match g.operands.getLast?, g.operands.dropLast with
    | some target, sources@(_ :: _) => eachOperand tool sources fun name => do
      match ← placeOf name, ← targetPlace name target with
      | some (place, some _), some goal =>
        match use g (← get).files place goal with
        | .ok files => modify fun m => { m with files }; pure none
        | .error fault => pure (some fault)
      | _, _ => pure (some "No such file or directory")
    | _, _ => report tool "missing file operand" 1

def moved (files : Files.Tree) (source target : Files.Place) : List (Files.Place × Files.Node) :=
  files.entries.filterMap fun (place, node) =>
    if source.isPrefixOf place then some (target ++ place.drop source.length, node) else none

def cp (arguments : List Chars) : Run Unit :=
  transfer "cp" (flags "rRafpvnT") arguments fun g files source target =>
    match files.node? source, files.node? target.dropLast with
    | some .directory, _ =>
      if g.has 'r' || g.has 'R' || g.has 'a' then
        .ok ((moved files source target).foldl (fun files entry => files.set entry.1 entry.2) files)
      else .error "omitting directory"
    | some (.file content executable), some .directory =>
      let kept := match files.node? target with
        | some (.file _ executable) => executable
        | _ => executable
      if source = target then .error "are the same file"
      else .ok (files.set target (.file content kept))
    | _, _ => .error "No such file or directory"

def mv (arguments : List Chars) : Run Unit :=
  transfer "mv" (flags "fvnT") arguments fun _ files source target =>
    match files.node? target.dropLast with
    | some .directory =>
      if source = target then .error "are the same file"
      else
        let entries := moved files source target
        .ok (entries.foldl (fun files entry => files.set entry.1 entry.2)
          (withoutPlace files source))
    | _ => .error "No such file or directory"

/-- Says whether a mode lets its owner run a file, if it says anything of that. -/
def runs? (mode : Chars) : Option Bool :=
  if !mode.isEmpty && mode.all isOctal then some (Ascii.numberOf 8 mode / 64 % 2 = 1)
  else
    let who := mode.takeWhile "ugoa".toList.contains
    let rest := mode.drop who.length
    if !(who.isEmpty || who.contains 'u' || who.contains 'a') then none
    else
      match rest with
      | '+' :: letters => if letters.contains 'x' then some true else none
      | '-' :: letters => if letters.contains 'x' then some false else none
      | '=' :: letters => some (letters.contains 'x')
      | _ => none

def chmod (arguments : List Chars) : Run Unit := do
  match arguments.filter (· ≠ ['-', 'R']) with
  | mode :: names => eachOperand "chmod" names fun name => do
    match ← placeOf name with
    | some (place, some (.file content executable)) =>
      let executable := (runs? mode).getD executable
      modify fun m => { m with files := m.files.set place (.file content executable) }
      pure none
    | some (_, some .directory) => pure none
    | _ => pure (some "No such file or directory")
  | [] => report "chmod" "missing operand" 1

def temporaryDirectory : String := "/tmp"

/-- Makes a file or a directory with a name that nothing else has. -/
def mktemp (arguments : List Chars) : Run Unit :=
  given "mktemp" 1 (flags "duqt" ++ [⟨'p', "tmpdir", true⟩]) arguments fun g => do
    let (files, place) ← match (← get).files.makeDirectories temporaryDirectory with
      | .ok made => pure made
      | .error _ => pure ((← get).files, [])
    let wanted := (g.operands.head?).getD "tmp.XXXXXXXXXX".toList
    let marks := (wanted.reverse.takeWhile (· = 'X')).length
    let stem := wanted.take (wanted.length - marks)
    let named (n : Nat) : Chars :=
      let digits := decimal n
      stem ++ List.replicate (marks - digits.length) '0' ++ digits
    set { (← get) with files }
    let directory := ((g.value? 'p').map textOf).getD (Files.Tree.pathTo place)
    let inDirectory := g.operands.isEmpty || g.has 't' || g.has 'p'
    let path (n : Nat) : Run Chars := do
      if inDirectory then pure (Chars.ofText (Files.joinPath directory (textOf (named n))))
      else pure (named n)
    let count := files.entries.length
    let mut made := false
    for n in List.range (count + 1) do
      if !made then
        let name ← path n
        match ← placeOf name with
        | some (place, none) =>
          if (files.node? place.dropLast) = some .directory then
            let node := if g.has 'd' then Files.Node.directory else .file [] false
            modify fun m => { m with files := m.files.set place node }
            say (name ++ ['\n'])
            made := true
        | _ => pure ()
    if !made then report "mktemp" "failed to create file" 1

def property? (name : Chars) (node : Files.Node) (letter : Char) : Option Chars :=
  match letter, node with
  | 'n', _ => some name
  | 's', .file content _ => some (decimal content.length)
  | 'F', .file [] _ => some "regular empty file".toList
  | 'F', .file _ _ => some "regular file".toList
  | 'F', .directory => some "directory".toList
  | 'a', .file _ executable => some (if executable then "755" else "644").toList
  | 'a', .directory => some "755".toList
  | _, _ => none

def stat (arguments : List Chars) : Run Unit :=
  given "stat" 1 [⟨'c', "format", true⟩] arguments fun g => do
    let render (name : Chars) (node : Files.Node) : Chars :=
      match ((g.value? 'c').getD ['%', 'n']).splitOn '%' with
      | first :: parts => first ++ parts.flatMap fun part =>
        match part with
        | letter :: rest => (property? name node letter).getD ['?'] ++ rest
        | [] => ['%']
      | [] => []
    eachOperand "stat" g.operands fun name => do
      match ← placeOf name with
      | some (_, some node) =>
        say (render name node ++ ['\n'])
        pure none
      | _ => pure (some "No such file or directory")

/-- The names in a directory in their order, those with a point in front only if asked
for. -/
def namesIn (files : Files.Tree) (place : Files.Place) (all : Bool) : List String :=
  let names := (files.children place).map Prod.fst
  (names.filter fun name => all || !name.startsWith ".").mergeSort fun a b => decide (a ≤ b)

def ls (arguments : List Chars) : Run Unit :=
  given "ls" 2 (flags "1aAdFlprtRS") arguments fun g => do
    let names := if g.operands.isEmpty then [['.']] else g.operands
    let found ← names.mapM fun name => do pure (name, ← placeOf name)
    let mut failed := false
    let mut listed : List Chars := []
    let mut directories : List (Chars × Files.Place) := []
    for (name, there) in found do
      match there with
      | some (place, some .directory) =>
        if g.has 'd' then listed := listed.concat name
        else directories := directories.concat (name, place)
      | some (_, some _) => listed := listed.concat name
      | _ =>
        report "ls" ("cannot access '" ++ textOf name ++ "': No such file or directory") 2
        failed := true
    let files := (← get).files
    let mut text := unlines listed
    for (name, place) in directories do
      let own : List String := if g.has 'a' then [".", ".."] else []
      let names := own ++ namesIn files place (g.has 'a' || g.has 'A')
      let opening : Chars := if 1 < found.length then
        (if text.isEmpty then [] else ['\n']) ++ name ++ [':', '\n'] else []
      text := text ++ opening ++ unlines (names.map Chars.ofText)
    say text
    if failed then setStatus 2

end Provenance.Shell.Tools
