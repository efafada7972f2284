import CodeRepair.About
import CodeRepair.Bench.Arithmetic
import CodeRepair.Bench.Condition
import CodeRepair.Bench.Desk
import CodeRepair.Bench.Expansion
import CodeRepair.Bench.Format
import CodeRepair.Bench.Pattern
import CodeRepair.Bench.Process
import CodeRepair.Bench.Script
import CodeRepair.Bench.ScriptReader
import CodeRepair.Bench.Shell
import CodeRepair.Bench.Signal
import CodeRepair.Bench.Snippet
import CodeRepair.Bench.Station
import CodeRepair.Bench.Tools
import CodeRepair.CommandLine.Args
import CodeRepair.CommandLine.Flag
import CodeRepair.CommandLine.Help
import CodeRepair.CommandLine.Perform
import CodeRepair.CommandLine.Printed
import CodeRepair.Config.Basic
import CodeRepair.Config.Check
import CodeRepair.Diagnostic.Basic
import CodeRepair.Diagnostic.Scan
import CodeRepair.Error
import CodeRepair.Execution.Capture
import CodeRepair.Execution.Result
import CodeRepair.Execution.Run
import CodeRepair.Files.Fault
import CodeRepair.Files.Path
import CodeRepair.Files.Tree
import CodeRepair.Fix.Basic
import CodeRepair.Fix.Pipeline
import CodeRepair.Fix.Prompt
import CodeRepair.Fix.Reply
import CodeRepair.Gateway.Body
import CodeRepair.Gateway.Cors
import CodeRepair.Gateway.Router
import CodeRepair.Gateway.Server
import CodeRepair.Http.MediaType
import CodeRepair.Http.Message
import CodeRepair.Http.Target
import CodeRepair.Json.Access
import CodeRepair.Json.Basic
import CodeRepair.Json.Cursor
import CodeRepair.Json.Edit
import CodeRepair.Json.Fault
import CodeRepair.Json.Lexeme
import CodeRepair.Json.Reader
import CodeRepair.Json.Writer
import CodeRepair.Language
import CodeRepair.Main
import CodeRepair.Number.Binary
import CodeRepair.Number.Digits
import CodeRepair.Proofs.Config.Saved
import CodeRepair.Proofs.Diagnostic.Compiler
import CodeRepair.Proofs.Diagnostic.Traceback
import CodeRepair.Proofs.Diagnostic.WellFormed
import CodeRepair.Proofs.Execution.Addressing
import CodeRepair.Proofs.Execution.Capture
import CodeRepair.Proofs.Execution.Classification
import CodeRepair.Proofs.Execution.Cleanup
import CodeRepair.Proofs.Execution.Itinerary
import CodeRepair.Proofs.Execution.Recording
import CodeRepair.Proofs.Files.Resolution
import CodeRepair.Proofs.Fix.Asking
import CodeRepair.Proofs.Fix.Balance
import CodeRepair.Proofs.Fix.Decoding
import CodeRepair.Proofs.Fix.Extraction
import CodeRepair.Proofs.Fix.Fences
import CodeRepair.Proofs.Fix.Packaging
import CodeRepair.Proofs.Fix.Scanner
import CodeRepair.Proofs.Fix.Unwrapping
import CodeRepair.Proofs.Fix.Vetted
import CodeRepair.Proofs.Gateway.Conversation
import CodeRepair.Proofs.Gateway.Routing
import CodeRepair.Proofs.Json.Access
import CodeRepair.Proofs.Json.Ahead
import CodeRepair.Proofs.Json.Grammar
import CodeRepair.Proofs.Json.Lexeme
import CodeRepair.Proofs.Json.Placed
import CodeRepair.Proofs.Json.Spacing
import CodeRepair.Proofs.Number.Digits
import CodeRepair.Proofs.Places
import CodeRepair.Proofs.Provider.Excerpt
import CodeRepair.Proofs.SafetyGate.Blocking
import CodeRepair.Proofs.SafetyGate.Extension
import CodeRepair.Proofs.Schema.Objects
import CodeRepair.Proofs.Schema.Outcomes
import CodeRepair.Proofs.Schema.Readers
import CodeRepair.Proofs.Schema.RoundTrip
import CodeRepair.Proofs.Schema.Toml
import CodeRepair.Proofs.Service.Admission
import CodeRepair.Proofs.Service.Alone
import CodeRepair.Proofs.Service.Calls
import CodeRepair.Proofs.Service.Cancellation
import CodeRepair.Proofs.Service.Completion
import CodeRepair.Proofs.Service.Course
import CodeRepair.Proofs.Service.Debugging
import CodeRepair.Proofs.Service.Determinacy
import CodeRepair.Proofs.Service.Driving
import CodeRepair.Proofs.Service.Enrolment
import CodeRepair.Proofs.Service.Fairness
import CodeRepair.Proofs.Service.Isolation
import CodeRepair.Proofs.Service.Line
import CodeRepair.Proofs.Service.Playing
import CodeRepair.Proofs.Service.Reachable
import CodeRepair.Proofs.Service.Refusal
import CodeRepair.Proofs.Service.Requests
import CodeRepair.Proofs.Service.Serving
import CodeRepair.Proofs.Service.Tracing
import CodeRepair.Proofs.Service.Transition
import CodeRepair.Proofs.Service.Turns
import CodeRepair.Proofs.Session.Entries
import CodeRepair.Proofs.Session.Key
import CodeRepair.Proofs.Session.Lifecycle
import CodeRepair.Proofs.Session.Log
import CodeRepair.Proofs.Session.Registry
import CodeRepair.Proofs.Session.Spelling
import CodeRepair.Proofs.Session.Updates
import CodeRepair.Proofs.Session.Wire
import CodeRepair.Proofs.Text.LowerCase
import CodeRepair.Proofs.Text.Pieces
import CodeRepair.Proofs.Text.Search
import CodeRepair.Proofs.Text.Spelling
import CodeRepair.Proofs.Text.Trim
import CodeRepair.Proofs.Text.Utf8
import CodeRepair.Proofs.Time.Calendar
import CodeRepair.Proofs.Time.Stamp
import CodeRepair.Proofs.Toml.Document
import CodeRepair.Proofs.Toml.Lexeme
import CodeRepair.Proofs.Toml.Tree
import CodeRepair.Provider.Basic
import CodeRepair.Provider.Exchange
import CodeRepair.Rehearsal
import CodeRepair.Report
import CodeRepair.SafetyGate
import CodeRepair.Schema.HasShape
import CodeRepair.Schema.Shape
import CodeRepair.Schema.Text
import CodeRepair.Schema.Toml
import CodeRepair.Schema.Value
import CodeRepair.Service.Admission
import CodeRepair.Service.Basic
import CodeRepair.Service.Conduct
import CodeRepair.Service.Machine
import CodeRepair.Session.Key
import CodeRepair.Session.Record
import CodeRepair.Session.Registry
import CodeRepair.Text.Blank
import CodeRepair.Text.Composition
import CodeRepair.Text.Digit
import CodeRepair.Text.Direction
import CodeRepair.Text.Joining
import CodeRepair.Text.LowerCase
import CodeRepair.Text.Mark
import CodeRepair.Text.Quoted
import CodeRepair.Text.Ranges
import CodeRepair.Text.Search
import CodeRepair.Text.Table
import CodeRepair.Text.Utf8
import CodeRepair.Time.Calendar
import CodeRepair.Time.Stamp
import CodeRepair.Toml.Basic
import CodeRepair.Toml.Lexeme
import CodeRepair.Toml.Reader
import CodeRepair.Toml.Writer
import CodeRepair.Url.Basic
import CodeRepair.Url.Domain
import CodeRepair.Url.Host
import CodeRepair.Url.Mapping
import CodeRepair.Url.Percent
