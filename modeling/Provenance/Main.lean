import Provenance.Runner.Program
import Provenance.Shell.Launch

/-!
The command line. It takes the variables of its process and the files of the
current directory, runs the program on them, and writes the files that are new or
changed. No network is reached from here, so every request fails. Started with the
mark of a worker it serves as one.
-/

namespace Provenance.CommandLine

def maxDepth : Nat := 64

def variablesPath : String := "/proc/self/environ"

def environment : IO (List Variable) := do
  let content := (← IO.FS.readBinFile variablesPath).data.toList
  pure ((Cut.pieces (· = '\x00') (Utf8.decodeLenient content).toList).filterMap fun entry =>
    (Cut.once ['='] entry).map fun (name, value) => (String.ofList name, String.ofList value))

/-- Adds an entry of a directory to a tree. Whether a file may be run is not known
here, so all may. -/
def load : Nat → Files.Place → Files.Tree → IO.FS.DirEntry → IO Files.Tree
  | 0, _, tree, _ => pure tree
  | depth + 1, above, tree, entry => do
    let place := above ++ [entry.fileName]
    if ← entry.path.isDir then
      (← entry.path.readDir).foldlM (load depth place) (tree.set place .directory)
    else
      let content := (← IO.FS.readBinFile entry.path).data.toList
      pure (tree.set place (.file content true))

def currentFiles : IO Files.Tree := do
  (← (← IO.currentDir).readDir).foldlM (load maxDepth []) .empty

def store (before after : Files.Tree) : IO Unit := do
  for (place, node) in after.entries do
    if before.node? place ≠ some node then
      let path := "/".intercalate place
      match node with
      | .directory => IO.FS.createDirAll path
      | .file content _ => IO.FS.writeBinFile path content.toByteArray

/-- Verifies the contracts of the current directory. -/
def verify (given : List Variable) : IO UInt32 := do
  let files ← currentFiles
  let (after, result) :=
    Program.run ⟨1, "/tmp"⟩ Shell.launcher given ⟨files, Net.Network.offline⟩
  store files after.files
  match result with
  | .ok _ => pure 0
  | .error (.pipeline .overflow) =>
    IO.eprintln Pipeline.Fault.overflow.message
    pure Execution.brokenOffCode.toUInt32
  | .error fault =>
    IO.eprintln ("Error: " ++ fault.message)
    pure 1

/-- Lets a worker speak after each line that it is given, until it ends. -/
def speak (worker : Execution.Process) : Nat → Execution.Stream → Nat → IO UInt32
  | 0, _, _ => pure 1
  | rounds + 1, heard, said => do
    let progress := worker ⟨0⟩ heard
    let output ← IO.getStdout
    output.write (progress.output.drop said).toByteArray
    output.flush
    match progress.status with
    | some status =>
      (← IO.getStderr).write progress.errors.toByteArray
      match status with
      | .exited code => pure code.toUInt32
      | .killed _ => pure 1
    | none =>
      let line ← (← IO.getStdin).getLine
      speak worker rounds ⟨heard.arrived ++ Bytes.ofText line, line.isEmpty⟩
        progress.output.length

/-- Serves as a worker. It hears two messages at most, and the end. -/
def serve (given : List Variable) : IO UInt32 := do
  speak (Execution.ownWorker (Shell.launcher (← currentFiles)) given) 4 ⟨[], false⟩ 0

end Provenance.CommandLine

def main : IO UInt32 := do
  let given ← Provenance.CommandLine.environment
  if (given.lookup Provenance.Execution.WorkerCommand.sentinelName).isSome then
    Provenance.CommandLine.serve given
  else Provenance.CommandLine.verify given
