import CallAudit.Action
import CallAudit.Call.Basic
import CallAudit.Call.Chain
import CallAudit.Call.Data
import CallAudit.Call.File
import CallAudit.Call.Place
import CallAudit.Call.Validation
import CallAudit.Check.Basic
import CallAudit.Check.Canonical
import CallAudit.Check.Classifier
import CallAudit.Check.Config
import CallAudit.Check.File
import CallAudit.Check.Registry
import CallAudit.Check.Warning
import CallAudit.CommandLine.Arguments
import CallAudit.CommandLine.Command
import CallAudit.CommandLine.Report
import CallAudit.Datum
import CallAudit.Digest.Md5
import CallAudit.Event
import CallAudit.Failure
import CallAudit.File.Contents
import CallAudit.File.Path
import CallAudit.Json.Reader
import CallAudit.Json.Writer
import CallAudit.Main
import CallAudit.Moment
import CallAudit.Number.Digits
import CallAudit.Number.Double
import CallAudit.Number.Shortest
import CallAudit.Number.Style
import CallAudit.Number.Word
import CallAudit.Proofs.Call.Joining
import CallAudit.Proofs.Call.Printing
import CallAudit.Proofs.Call.RoundTrip
import CallAudit.Proofs.Check.Agreement
import CallAudit.Proofs.Check.Arguments
import CallAudit.Proofs.Check.Canonical
import CallAudit.Proofs.Check.Correction
import CallAudit.Proofs.Check.Failing
import CallAudit.Proofs.Check.Grading
import CallAudit.Proofs.Check.Inquiry
import CallAudit.Proofs.Check.Loading
import CallAudit.Proofs.Check.Memory
import CallAudit.Proofs.Check.Naming
import CallAudit.Proofs.Check.Registration
import CallAudit.Proofs.Check.Renaming
import CallAudit.Proofs.Check.CodeTable
import CallAudit.Proofs.Check.Reordering
import CallAudit.Proofs.Check.Repetition
import CallAudit.Proofs.Check.Request
import CallAudit.Proofs.Check.Selection
import CallAudit.Proofs.Check.Transparency
import CallAudit.Proofs.Check.Validated
import CallAudit.Proofs.CommandLine.Outcome
import CallAudit.Proofs.CommandLine.Printing
import CallAudit.Proofs.CommandLine.Union
import CallAudit.Proofs.File.Lines
import CallAudit.Proofs.Json.Canonical
import CallAudit.Proofs.Json.Identity
import CallAudit.Proofs.Json.Number
import CallAudit.Proofs.Json.NumberReading
import CallAudit.Proofs.Json.Range
import CallAudit.Proofs.Json.Reading
import CallAudit.Proofs.Json.RoundTrip
import CallAudit.Proofs.Json.Skipping
import CallAudit.Proofs.Json.Text
import CallAudit.Proofs.Json.Writing
import CallAudit.Proofs.Number.Rounding
import CallAudit.Proofs.Number.Shortest
import CallAudit.Proofs.Query.Chains
import CallAudit.Proofs.Query.Names
import CallAudit.Proofs.Query.Options
import CallAudit.Proofs.Query.Paths
import CallAudit.Proofs.Query.Plan
import CallAudit.Proofs.Query.Rescan
import CallAudit.Proofs.Query.Scan
import CallAudit.Proofs.Store.Groups
import CallAudit.Proofs.Store.History
import CallAudit.Proofs.Store.Indexing
import CallAudit.Proofs.Store.Interruption
import CallAudit.Proofs.Store.Lookup
import CallAudit.Proofs.Store.Matching
import CallAudit.Proofs.Store.Ordinals
import CallAudit.Proofs.Store.Pruning
import CallAudit.Proofs.Store.Repetition
import CallAudit.Proofs.Value.Equivalence
import CallAudit.Proofs.Value.Keys
import CallAudit.Proofs.Value.Ordering
import CallAudit.Proofs.Value.Sets
import CallAudit.Query.Basic
import CallAudit.Query.ChainTest
import CallAudit.Query.Criterion
import CallAudit.Query.Plan
import CallAudit.Regex.Basic
import CallAudit.Regex.Matcher
import CallAudit.Regex.Parser
import CallAudit.Regex.Reader
import CallAudit.Regex.Width
import CallAudit.Store.Basic
import CallAudit.Store.Lookup
import CallAudit.Store.Removal
import CallAudit.Text.Quoted
import CallAudit.Toml.Document
import CallAudit.Toml.Scalar
import CallAudit.Toml.Table
import CallAudit.Toml.Text
import CallAudit.Unicode.Case
import CallAudit.Unicode.DecimalDigit
import CallAudit.Unicode.Identifier
import CallAudit.Unicode.Printable
import CallAudit.Unicode.Range
import CallAudit.Unicode.Space
import CallAudit.Unicode.Word
import CallAudit.Validation
import CallAudit.Validation.Scalar
import CallAudit.Value.Basic
import CallAudit.Value.Display
import CallAudit.Value.Equality
import CallAudit.Value.Ordering
