import Provenance.Compiler.Pool
import Provenance.Number.Unsigned
import Provenance.Pipeline.Settings
import Provenance.Url.Parser

/-!
The settings of the program: of the pipeline, the compilers, the store and the
nodes, each with values for what is not given. Unknown settings are refused.
-/

namespace Provenance

/-!
What the settings take from the host where they do not say otherwise.
-/

structure Host where
  threads : Nat
  temporaryDirectory : String
  deriving DecidableEq, Repr

namespace Host

/-- Workers start compilers, so there are fewer of them than threads: half as
many, but at least one and at most four. -/
def pipelineWorkers (h : Host) : Nat := min 4 (max 1 (h.threads / 2))

def compilersDirectory (h : Host) : String := h.temporaryDirectory ++ "/solidity-compilers"

end Host

open Shape

def Url.decodeBy (values : Values) : Decoder Url := fun json => do
  let text ← values.text "a string representing an URL" json
  match Url.parse text with
  | .ok url => .ok url
  | .error cause => fail (.custom (cause.message ++ ": " ++ Quoted.text text))

def Url.decode : Decoder Url := Url.decodeBy strictValues

structure CompilerSettings where
  directory : String
  host : Url
  listUrls : List (Platform × Url)
  useNative : Bool
  mode : Execution.LaunchMode
  timeout : Duration
  maxOutput : Nat
  maxThreads : Nat
  jsRuntime : String

namespace CompilerSettings

def publicHost : Url where
  scheme := "https"
  host := some (.domain "binaries.soliditylang.org")
  path := "/"

def standard (h : Host) : CompilerSettings where
  directory := h.compilersDirectory
  host := publicHost
  listUrls := []
  useNative := true
  mode := .direct
  timeout := Execution.Limits.standard.timeout
  maxOutput := Execution.Limits.standard.maxOutput
  maxThreads := h.threads
  jsRuntime := "node"

def seconds (values : Values) : Decoder Duration := fun json =>
  (values.unsigned "u64" json).map Duration.ofSeconds

def positive (values : Values) : Decoder Nat := fun json => do
  let n ← values.unsigned "a nonzero usize" json
  if n = 0 then fail (.invalidValue (describe (.nat 0)) "a nonzero usize") else .ok n

def decodeListUrls (values : Values) : Decoder (List (Platform × Url)) :=
  tableOf (fun _ => .unnamed) (variant Platform.choices) (Url.decodeBy values)

def decodeBy (values : Values) (h : Host) : Decoder CompilerSettings :=
  let absent := standard h
  values.record "CompilersSettings" true
    (mk <$> Fields.defaulted "dir" (values.text "path string") absent.directory
      <*> Fields.defaulted "binaries_host" (Url.decodeBy values) absent.host
      <*> Fields.defaulted "list_urls" (decodeListUrls values) absent.listUrls
      <*> Fields.defaulted "use_native" values.boolean absent.useNative
      <*> Fields.defaulted "execution_mode" (values.choice Execution.LaunchMode.choices)
        absent.mode
      <*> Fields.defaulted "timeout" (seconds values) absent.timeout
      <*> Fields.defaulted "max_output_size" (values.unsigned "usize") absent.maxOutput
      <*> Fields.defaulted "max_threads" (positive values) absent.maxThreads
      <*> Fields.defaulted "js_runtime" (values.text "a string") absent.jsRuntime)

def limits (s : CompilerSettings) : Execution.Limits := ⟨s.timeout, s.maxOutput⟩

/-- The platform of this host's own builds, if they are used. -/
def nativePlatform (s : CompilerSettings) : Option Platform :=
  if s.useNative then some .linux else none

/-- The compilers as the settings want them, none of them there yet. -/
def pool (s : CompilerSettings) : CompilerPool where
  policy := ⟨s.nativePlatform, s.mode, s.limits, ⟨none, s.jsRuntime⟩⟩
  releases := .ofHost s.host s.listUrls
  artifacts := .inDirectory s.directory

end CompilerSettings

structure NodeSettings where
  urls : List (Nat × Url)
  timeout : Duration

namespace NodeSettings

def standard : NodeSettings := ⟨[], .ofSeconds 15⟩

def chain (name : String) : Except Mismatch Nat :=
  match Unsigned.parse name.toList with
  | .ok n => .ok n
  | .error cause => fail (.custom cause.message)

/-- Nodes by chain. Of several that are given for one chain the last counts. -/
def decodeUrls (values : Values) : Decoder (List (Nat × Url)) := fun json => do
  let entries ← tableOf .member chain (Url.decodeBy values) json
  .ok (entries.foldl (fun urls entry => urls.filter (·.1 ≠ entry.1) ++ [entry]) [])

def decodeBy (values : Values) : Decoder NodeSettings :=
  values.record "RpcSettings" true
    (mk <$> Fields.defaulted "urls" (decodeUrls values) standard.urls
      <*> Fields.defaulted "request_timeout" (CompilerSettings.seconds values) standard.timeout)

end NodeSettings

structure Settings where
  pipeline : PipelineSettings
  compilers : CompilerSettings
  contractsRoot : String
  nodes : NodeSettings

namespace Settings

inductive Fault where
  | noWorkers
  | noNodes
  deriving DecidableEq, Repr

def Fault.message : Fault → String
  | .noWorkers => "pipeline.workers should be positive"
  | .noNodes => "at least one rpc url should be configured"

def standardRoot : String := "contracts"

def decodeRoot (values : Values) : Decoder String :=
  values.record "ContractsSettings" true
    (Fields.defaulted "root" (values.text "path string") standardRoot)

/-- The form of log lines does not matter here. -/
def decodeTracing (values : Values) : Decoder Unit :=
  values.record "TracingSettings" true
    ((fun _ _ => ()) <$> Fields.defaulted "enabled" values.boolean true
      <*> Fields.defaulted "format" (values.choice [("default", ()), ("json", ())]) ())

def decodeJaeger (values : Values) : Decoder Unit :=
  values.record "JaegerSettings" true
    ((fun _ _ => ()) <$> Fields.defaulted "enabled" values.boolean false
      <*> Fields.defaulted "agent_endpoint" (values.text "a string") "")

def decodeBy (values : Values) (h : Host) : Decoder Settings :=
  values.record "Settings" true
    ((fun pipeline compilers root nodes _ _ => ⟨pipeline, compilers, root, nodes⟩)
      <$> Fields.defaulted "pipeline" (PipelineSettings.decodeBy values h.pipelineWorkers)
        (.standard h.pipelineWorkers)
      <*> Fields.defaulted "compilers" (CompilerSettings.decodeBy values h) (.standard h)
      <*> Fields.defaulted "contracts" (decodeRoot values) standardRoot
      <*> Fields.defaulted "rpc" (NodeSettings.decodeBy values) .standard
      <*> Fields.defaulted "tracing" (decodeTracing values) ()
      <*> Fields.defaulted "jaeger" (decodeJaeger values) ())

def decode (h : Host) : Decoder Settings := decodeBy strictValues h

def validate (s : Settings) : Except Fault Unit :=
  if s.pipeline.workers = 0 then .error .noWorkers
  else if s.nodes.urls.isEmpty then .error .noNodes
  else .ok ()

end Settings

end Provenance
