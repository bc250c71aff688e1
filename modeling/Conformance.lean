import Conformance.Backend.Command
import Conformance.Backend.Reference
import Conformance.Backend.Subprocess
import Conformance.Backend.Table
import Conformance.Backend.ToolMessage
import Conformance.Capacity
import Conformance.CommandLine.Console
import Conformance.CommandLine.Option
import Conformance.CommandLine.Program
import Conformance.CommandLine.Request
import Conformance.Compile.Adapter
import Conformance.Compile.Compiler
import Conformance.Compile.Result
import Conformance.Config.Basic
import Conformance.Config.Conversion
import Conformance.Config.Draft
import Conformance.Config.Load
import Conformance.Config.Placeholder
import Conformance.Config.Validation
import Conformance.Decimal.Arithmetic
import Conformance.Decimal.Binary64
import Conformance.Decimal.Notation
import Conformance.Decimal.Reading
import Conformance.Document.Basic
import Conformance.Document.Display
import Conformance.Document.Json
import Conformance.Document.Operand
import Conformance.Document.Yaml.Block
import Conformance.Document.Yaml.Cursor
import Conformance.Document.Yaml.Fault
import Conformance.Document.Yaml.Value
import Conformance.Document.Yaml.Node
import Conformance.Document.Yaml.Scalar
import Conformance.Document.Yaml.Schema
import Conformance.Document.Yaml.Tag
import Conformance.Document.Yaml.Token
import Conformance.Environment
import Conformance.Failure
import Conformance.FileTree.Basic
import Conformance.FileTree.Path
import Conformance.Fixture.Case
import Conformance.Fixture.Metadata
import Conformance.Fixture.Suite
import Conformance.Log
import Conformance.Main
import Conformance.Proofs.Backend.Reference
import Conformance.Proofs.CommandLine.Step
import Conformance.Proofs.CommandLine.Tag
import Conformance.Proofs.Compile.Adapter
import Conformance.Proofs.Decimal.Arithmetic
import Conformance.Proofs.Decimal.Binary64
import Conformance.Proofs.Decimal.Unpacked
import Conformance.Proofs.Document.Json
import Conformance.Proofs.FileTree.Lookup
import Conformance.Proofs.FileTree.Walk
import Conformance.Proofs.Fixture.Directive
import Conformance.Proofs.Fixture.Case
import Conformance.Proofs.Fixture.Suite
import Conformance.Proofs.Run.Case
import Conformance.Proofs.Run.Completion
import Conformance.Proofs.Run.Copies
import Conformance.Proofs.Run.Isolation
import Conformance.Proofs.Run.Lifecycle
import Conformance.Proofs.Run.Report
import Conformance.Proofs.Run.Trace
import Conformance.Proofs.Run.Verdict
import Conformance.Proofs.Session
import Conformance.Proofs.Source.Lexeme
import Conformance.Proofs.Source.Structure
import Conformance.Proofs.Source.Tiling
import Conformance.Proofs.Text.Utf8
import Conformance.Report.Given
import Conformance.Report.Json
import Conformance.Report.Markup
import Conformance.Report.Terminal
import Conformance.Report.Timestamp
import Conformance.Run.Benchmark
import Conformance.Run.Report
import Conformance.Run.Runner
import Conformance.Session
import Conformance.Shell.Arithmetic
import Conformance.Shell.Awk.Expression
import Conformance.Shell.Awk.Pattern
import Conformance.Shell.Awk.Reading
import Conformance.Shell.Awk.Replace
import Conformance.Shell.Utility.Awk
import Conformance.Shell.Awk.Running
import Conformance.Shell.Awk.State
import Conformance.Shell.Awk.Stream
import Conformance.Shell.Awk.Syntax
import Conformance.Shell.Awk.Table
import Conformance.Shell.Awk.Token
import Conformance.Shell.Awk.Value
import Conformance.Shell.Builtin
import Conformance.Shell.Calendar
import Conformance.Shell.Condition
import Conformance.Shell.Difference
import Conformance.Shell.EditScript
import Conformance.Shell.Editing
import Conformance.Shell.Execution
import Conformance.Shell.Expansion
import Conformance.Shell.Format
import Conformance.Shell.Hunk
import Conformance.Shell.Job
import Conformance.Shell.Machine
import Conformance.Shell.Octets
import Conformance.Shell.Pattern
import Conformance.Shell.Permission
import Conformance.Shell.Process
import Conformance.Shell.Program
import Conformance.Shell.Reading
import Conformance.Shell.Regular
import Conformance.Shell.Script
import Conformance.Shell.Utility
import Conformance.Shell.Utility.Basic
import Conformance.Shell.Utility.Caller
import Conformance.Shell.Utility.Change
import Conformance.Shell.Utility.Characters
import Conformance.Shell.Utility.Columns
import Conformance.Shell.Utility.Compute
import Conformance.Shell.Utility.Copy
import Conformance.Shell.Utility.Difference
import Conformance.Shell.Utility.Edit
import Conformance.Shell.Utility.Find
import Conformance.Shell.Utility.Lines
import Conformance.Shell.Utility.Listing
import Conformance.Shell.Utility.Name
import Conformance.Shell.Utility.Numbers
import Conformance.Shell.Utility.Search
import Conformance.Shell.Utility.Sort
import Conformance.Signature
import Conformance.Source.Token
import Conformance.Source.Structure
import Conformance.Telemetry.Activation
import Conformance.Telemetry.Scrub
import Conformance.Text.Basic
import Conformance.Text.Character
import Conformance.Text.Utf8
import Conformance.Text.Lines
import Conformance.Text.Lowercase
import Conformance.Text.Printable
import Conformance.Text.Search
import Conformance.Text.Word
import Conformance.Proofs.Report.Json
import Conformance.Proofs.Report.Terminal
import Conformance.Proofs.CommandLine.Prepare
import Conformance.Proofs.CommandLine.Run
import Conformance.Proofs.Backend.Command
import Conformance.Proofs.Fixture.Metadata
import Conformance.Proofs.Config.Load
import Conformance.Proofs.Config.Written
import Conformance.Proofs.Telemetry.Event
import Conformance.Proofs.Telemetry.Secret
import Conformance.Proofs.Backend.ToolMessage
import Conformance.Proofs.Text.Lines
import Conformance.Proofs.Backend.Workspace
import Conformance.Proofs.Run.Notes
import Conformance.Proofs.CommandLine.Chapter
import Conformance.Proofs.Backend.Result
import Conformance.Proofs.Backend.Comment
import Conformance.Proofs.Run.Readability
import Conformance.Proofs.CommandLine.Runnable
import Conformance.Proofs.Backend.Streams
import Conformance.Proofs.Backend.Written
import Conformance.Proofs.Source.Matching
import Conformance.Proofs.Fixture.Layout
import Conformance.Proofs.Fixture.Table
import Conformance.Proofs.Run.Benchmark
import Conformance.Proofs.Config.Nested
import Conformance.Proofs.Telemetry.Activation
import Conformance.Proofs.Telemetry.Alike
import Conformance.Proofs.Fixture.Extension
import Conformance.Proofs.Report.Recount
import Conformance.Proofs.Report.Bar
import Conformance.Proofs.CommandLine.Invalid
import Conformance.Proofs.Fixture.Chapter
import Conformance.Proofs.Backend.Table
import Conformance.Proofs.Backend.Naming
