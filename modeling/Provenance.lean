import Provenance.Archive.Zip
import Provenance.Archive.Inflate
import Provenance.Bytes
import Provenance.Cbor.Kind
import Provenance.Cbor.Reader
import Provenance.Cbor.Skip
import Provenance.Code.Comparison
import Provenance.Code.Trailer
import Provenance.Compiler.Artifacts
import Provenance.Compiler.Catalog
import Provenance.Compiler.Downloads
import Provenance.Compiler.Fault
import Provenance.Compiler.Fetch
import Provenance.Compiler.Name
import Provenance.Compiler.Output
import Provenance.Compiler.Releases
import Provenance.Compiler.Pool
import Provenance.Compiler.Selection
import Provenance.Contract.Attestation
import Provenance.Contract.Basic
import Provenance.Digest.Keccak
import Provenance.Digest.Md5
import Provenance.Digest.Sha
import Provenance.Domain.Rules
import Provenance.Domain.Name
import Provenance.Domain.Punycode
import Provenance.Domain.Repertoire
import Provenance.Execution.Basic
import Provenance.Execution.Message
import Provenance.Execution.Process
import Provenance.Execution.Handshake
import Provenance.Execution.Portable
import Provenance.Execution.Stream
import Provenance.Files.Tree
import Provenance.Hex
import Provenance.Json.Reader
import Provenance.Json.Scalar
import Provenance.Json.Scanner
import Provenance.Json.Shape
import Provenance.Json.Value
import Provenance.Json.Writer
import Provenance.Main
import Provenance.Metadata
import Provenance.Net.Network
import Provenance.Number.Binary64
import Provenance.Number.Power
import Provenance.Number.Unsigned
import Provenance.Pipeline.Basic
import Provenance.Pipeline.Rehearsal
import Provenance.Pipeline.Settings
import Provenance.Proofs.Cbor.Locality
import Provenance.Proofs.Cbor.Grammar
import Provenance.Proofs.Cbor.Elements
import Provenance.Proofs.Cbor.Nesting
import Provenance.Proofs.Code.Trailers
import Provenance.Proofs.Metadata.Locality
import Provenance.Queue.Clock
import Provenance.Queue.Machine
import Provenance.Queue.Timetable
import Provenance.Runner.Config
import Provenance.Runner.Settings
import Provenance.Runner.Node
import Provenance.Runner.Program
import Provenance.Runner.Store
import Provenance.Shell.Arithmetic
import Provenance.Shell.Builtin
import Provenance.Shell.Class
import Provenance.Shell.Edit
import Provenance.Shell.Fields
import Provenance.Shell.Format
import Provenance.Shell.Glob
import Provenance.Shell.Interpreter
import Provenance.Shell.Launch
import Provenance.Shell.Machine
import Provenance.Shell.Parser
import Provenance.Shell.Pattern
import Provenance.Shell.Program
import Provenance.Shell.Real
import Provenance.Shell.Records.Interpreter
import Provenance.Shell.Records.Machine
import Provenance.Shell.Records.Parser
import Provenance.Shell.Records.Token
import Provenance.Shell.Records.Value
import Provenance.Shell.Redirection
import Provenance.Shell.Regex
import Provenance.Shell.Runner
import Provenance.Shell.Scope
import Provenance.Shell.Token
import Provenance.Shell.Tools.Basic
import Provenance.Shell.Tools.Copy
import Provenance.Shell.Tools.Characters
import Provenance.Shell.Tools.Codes
import Provenance.Shell.Tools.Count
import Provenance.Shell.Tools.Edit
import Provenance.Shell.Tools.Input
import Provenance.Shell.Tools.Lines
import Provenance.Shell.Tools.Paths
import Provenance.Shell.Tools.Records
import Provenance.Shell.Tools.Search
import Provenance.Shell.Tools.Table
import Provenance.Shell.Tools.Test
import Provenance.Shell.Word
import Provenance.Text.Basic
import Provenance.Text.Base58
import Provenance.Text.Composed
import Provenance.Text.Mark
import Provenance.Text.Quoted
import Provenance.Text.Run
import Provenance.Text.Utf8
import Provenance.Url.Basic
import Provenance.Url.Host
import Provenance.Url.Parser
import Provenance.Url.Path
import Provenance.Url.Percent
import Provenance.Proofs.Code.Stripping
import Provenance.Proofs.Code.Appended
import Provenance.Proofs.Queue.Session
import Provenance.Proofs.Queue.Soundness
import Provenance.Proofs.Queue.Invariant
import Provenance.Proofs.Queue.Order
import Provenance.Proofs.Queue.Clocked
import Provenance.Proofs.Pipeline.Calls
import Provenance.Proofs.Pipeline.Sequential
import Provenance.Proofs.Pipeline.Refinement
import Provenance.Proofs.Pipeline.Rehearsal
import Provenance.Proofs.Code.Agreement
import Provenance.Proofs.Code.Deployment
import Provenance.Proofs.Cbor.Reading
import Provenance.Proofs.Cbor.Walk
import Provenance.Proofs.Metadata.WellFormed
import Provenance.Proofs.Queue.Draining
import Provenance.Proofs.Cbor.Passing
import Provenance.Proofs.Metadata.Extension
import Provenance.Proofs.Compiler.Storing
import Provenance.Proofs.Compiler.Downloads
import Provenance.Proofs.Compiler.Independence
import Provenance.Proofs.Json.Leaves
import Provenance.Proofs.Json.Compact
import Provenance.Proofs.Execution.Message
import Provenance.Proofs.Execution.Stream
import Provenance.Proofs.Execution.Exchange
import Provenance.Proofs.Execution.Handshake
import Provenance.Proofs.Execution.Hearing
import Provenance.Proofs.Contract.Fingerprints
import Provenance.Proofs.Compiler.Catalog
import Provenance.Proofs.Compiler.Selection
import Provenance.Proofs.Pipeline.Resumption
import Provenance.Proofs.Compiler.Installed
import Provenance.Proofs.Code.Scan
import Provenance.Proofs.Code.Heads
import Provenance.Proofs.Compiler.Fetching
import Provenance.Proofs.Compiler.Provision
import Provenance.Proofs.Compiler.Overlap
import Provenance.Proofs.Text.Numerals
import Provenance.Proofs.Metadata.Fields
import Provenance.Proofs.Metadata.Contents
import Provenance.Proofs.Metadata.Order
import Provenance.Proofs.Code.Overwriting
import Provenance.Proofs.Queue.Window
import Provenance.Proofs.Queue.Scheduling
import Provenance.Proofs.Queue.Staffing
import Provenance.Proofs.Compiler.Commits
import Provenance.Proofs.Execution.Lines
import Provenance.Proofs.Execution.Driving
import Provenance.Proofs.Execution.Serving
import Provenance.Proofs.Execution.LineLimit
import Provenance.Proofs.Json.Order
import Provenance.Proofs.Json.Nesting
import Provenance.Proofs.Execution.Payloads
import Provenance.Proofs.Files.Paving
import Provenance.Proofs.Compiler.Interruption
import Provenance.Proofs.Compiler.Origins
import Provenance.Proofs.Success
import Provenance.Proofs.Text.Decimal
import Provenance.Proofs.Text.Hexadecimal
import Provenance.Proofs.Json.Records
import Provenance.Proofs.Execution.OutputLimit
import Provenance.Proofs.Runner.WorkerLimits
import Provenance.Proofs.Code.Decoding
import Provenance.Proofs.Compiler.Naming
import Provenance.Proofs.Files.Joining
import Provenance.Proofs.Files.Soundness
import Provenance.Proofs.Files.Writing
import Provenance.Proofs.Compiler.FileNames
import Provenance.Proofs.Runner.Listing
import Provenance.Proofs.Runner.Saving
import Provenance.Proofs.Runner.Retrying
import Provenance.Proofs.Compiler.Indexes
import Provenance.Proofs.Queue.Gauges
