import Provenance.Compiler.Fetch
import Provenance.Compiler.Name
import Provenance.Compiler.Output
import Provenance.Execution.Basic
import Provenance.Files.Tree

/-!
Why a compilation fails: at its compiler's name, at finding or fetching the
compiler, at running it, or by its own verdict.
-/

namespace Provenance

inductive CompilationFault where
  | badName (cause : CompilerName.Fault)
  | notFound (longVersion : String)
  | fetch (cause : FetchFault)
  | misplaced (cause : Files.Fault)
  | rejected (errors : List Json)
  | execution (cause : Execution.Fault)
  | badOutput (cause : Shape.Mismatch)

def CompilationFault.message : CompilationFault → String
  | .badName cause => "invalid compiler name: " ++ cause.message
  | .notFound longVersion => "compiler version not found: " ++ longVersion
  | .fetch cause => "error while fetching compiler: " ++ cause.message
  | .misplaced cause => "internal error: resolving wasm compiler path: " ++ cause.message
  | .rejected errors => "compilation error: " ++ CompilerOutput.errorsText errors
  | .execution cause => "compiler execution failed: " ++ cause.message
  | .badOutput cause => "internal error: deserializing compiler output: " ++ cause.message

def CompilerOutput.contracts? (answer : Json) :
    Except CompilationFault (Contracts × List (String × Json)) :=
  match CompilerOutput.decode answer with
  | .error cause => .error (.badOutput cause)
  | .ok (.failure errors) => .error (.rejected errors)
  | .ok (.success contracts sources) => .ok (contracts, sources)

end Provenance
