import Provenance.Shell.Records.Interpreter

/-!
Going through records by a program that is given as text.
-/

namespace Provenance.Shell.Tools

open Records in
def startOfRecords (m : Machine) (g : Given) (operands : List Chars) : Records.State :=
  let standard : List (String × String) :=
    [("FS", " "), ("OFS", " "), ("ORS", "\n"), ("RS", "\n"), ("SUBSEP", "\x1c"),
      ("CONVFMT", "%.6g"), ("OFMT", "%.6g")]
  let texts := standard.map fun (name, text) => (name.toList, Value.text text.toList)
  let environment := m.exported.filterMap fun name => (m.get? name).map fun value =>
    (name, Value.input value)
  let arguments := ("awk".toList :: operands).mapIdx fun i text =>
    ((toString i).toList, Value.input text)
  let s : State := {
    values := texts, record := [], fields := #[], frame := [], calls := 0
    arrays := [("ENVIRON".toList, environment), ("ARGV".toList, arguments)]
    operands, origin := .nowhere, named := false, opened := [], written := [], active := [] }
  let s := ["NR", "NF", "FNR", "RSTART"].foldl (fun s name => s.set name.toList (.number 0.0)) s
  let s := s.set "ARGC".toList (.ofNat arguments.length)
  let s := match g.value? 'F' with
    | some separator =>
      s.set "FS".toList (.text (if separator = ['t'] then ['\t'] else givenText separator))
    | none => s
  ((g.all 'v').filterMap setting?).foldl (fun s (name, value) => s.set name value) s

def recordFuel : Nat := 1000000

open Records in
def awk (arguments : List Chars) : Run Unit := do
  match split (values "Fvf") true (arguments.length + 1) arguments with
  | none => report "awk" "unrecognized option" 2
  | some g =>
    let sources ← (g.all 'f').mapM fun file => text? "awk" file
    let (source, operands) := match g.has 'f', g.operands with
      | true, operands => (sources.mapM id |>.map fun texts => (texts.intersperse ['\n']).flatten,
          operands)
      | false, source :: operands => (some source, operands)
      | false, [] => (none, [])
    match source with
    | none => report "awk" "no program" 2
    | some source =>
      match Program.read source with
      | none => report "awk" "syntax error" 2
      | some program =>
        let start := startOfRecords (← get) g operands
        match ← ((program.run recordFuel).run.run start) with
        | (.ok code, _) => setStatus code
        | (.error (.failure ""), _) => setStatus 2
        | (.error (.failure message), _) => report "awk" message 2
        | (.error _, _) => setStatus 2

end Provenance.Shell.Tools
