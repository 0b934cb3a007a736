import SourceIndex.Act
import SourceIndex.Analyzer.Basic
import SourceIndex.Analyzer.Calls
import SourceIndex.Analyzer.Options
import SourceIndex.Analyzer.Ownership
import SourceIndex.Cache.Basic
import SourceIndex.Cache.Blueprint
import SourceIndex.Cache.Disposal
import SourceIndex.Cache.Entry
import SourceIndex.Cache.Failure
import SourceIndex.Cache.Serving
import SourceIndex.Cache.Setup
import SourceIndex.Cache.Shared
import SourceIndex.Config.Basic
import SourceIndex.Config.Decode
import SourceIndex.Config.FileArguments
import SourceIndex.Config.Load
import SourceIndex.Config.Validation
import SourceIndex.Decimal.Binary64
import SourceIndex.Decimal.Shortest
import SourceIndex.Diagnostic
import SourceIndex.Effect
import SourceIndex.File.Buffers
import SourceIndex.File.Fault
import SourceIndex.File.Kind
import SourceIndex.File.Time
import SourceIndex.Inbox
import SourceIndex.Json.Decode
import SourceIndex.Json.Forms
import SourceIndex.Json.Number
import SourceIndex.Json.Quoted
import SourceIndex.Json.Reading
import SourceIndex.Json.Writing
import SourceIndex.Mismatch
import SourceIndex.Native.Adapter
import SourceIndex.Native.Handover
import SourceIndex.Native.Library
import SourceIndex.Native.Loading
import SourceIndex.Path.Basic
import SourceIndex.Path.FileName
import SourceIndex.Path.Relative
import SourceIndex.Path.Table
import SourceIndex.Proofs.Cache.Outcomes
import SourceIndex.Proofs.Cache.Runs
import SourceIndex.Proofs.Tables
import SourceIndex.Simulation.Command
import SourceIndex.Simulation.Engine
import SourceIndex.Simulation.Files
import SourceIndex.Simulation.Script
import SourceIndex.Simulation.Session
import SourceIndex.Simulation.Stub
import SourceIndex.Simulation.World
import SourceIndex.SortedTable
import SourceIndex.SortedTable.Lookup
import SourceIndex.Text.Lowercase
import SourceIndex.Text.Printable
import SourceIndex.Text.Quoted
import SourceIndex.Text.Uppercase
import SourceIndex.Text.Utf8
import SourceIndex.Text.Words
import SourceIndex.Toml.Basic
import SourceIndex.Toml.Date
import SourceIndex.Toml.Decode
import SourceIndex.Toml.Layout
import SourceIndex.Toml.Number
import SourceIndex.Toml.Reading
import SourceIndex.Toml.Report
import SourceIndex.Toml.Stop
import SourceIndex.Toml.Tables
import SourceIndex.Toml.Text
import SourceIndex.Proofs.Cache.Steps
import SourceIndex.Proofs.Cache.Ownership
import SourceIndex.Proofs.Cache.Procedure
import SourceIndex.Proofs.Cache.Provenance
import SourceIndex.Proofs.Cache.Failures
import SourceIndex.Proofs.Cache.Panics
import SourceIndex.Proofs.Cache.Sharing
import SourceIndex.Proofs.Cache.Reports
import SourceIndex.Proofs.Alike
import SourceIndex.Proofs.Cache.Isolation
import SourceIndex.Proofs.Cache.Persistence
import SourceIndex.Proofs.Cache.Teardown
import SourceIndex.Proofs.Cache.Destroyed
import SourceIndex.Proofs.Config.Validity
import SourceIndex.Proofs.Cache.Configured
import SourceIndex.Proofs.Cache.Contrast
import SourceIndex.Proofs.Cache.Verbosity
import SourceIndex.Proofs.Cache.Lives
import SourceIndex.Proofs.Cache.OneCache
import SourceIndex.Proofs.Cache.Calls
import SourceIndex.Proofs.Text.Utf8
import SourceIndex.Proofs.Path.Spelling
import SourceIndex.Proofs.Path.Entries
import SourceIndex.Proofs.Cache.Excluded
import SourceIndex.Proofs.Cache.Respelled
import SourceIndex.Proofs.File.Edits
import SourceIndex.Proofs.Cache.CurrentBuffers
import SourceIndex.Proofs.Json.Written
import SourceIndex.Proofs.Json.RoundTrip
import SourceIndex.Proofs.Config.FirstFault
import SourceIndex.Proofs.Path.Keys
import SourceIndex.Proofs.Config.Dictionary
import SourceIndex.Proofs.Config.Extensions
import SourceIndex.Proofs.Config.FileKeys
import SourceIndex.Proofs.Text.Letters
import SourceIndex.Proofs.Path.Letters
import SourceIndex.Proofs.Toml.Distinct
import SourceIndex.Proofs.Toml.Rearranged
import SourceIndex.Proofs.Toml.Records
import SourceIndex.Proofs.Config.Wording
import SourceIndex.Proofs.Diagnostic.Uses
import SourceIndex.Proofs.Json.Fields
import SourceIndex.Proofs.Diagnostic.Codes
import SourceIndex.Proofs.Cache.Clauses
import SourceIndex.Proofs.Native.Handover
import SourceIndex.Proofs.Native.Ledger
import SourceIndex.Proofs.Native.Lifetimes
import SourceIndex.Proofs.Cache.Priming
import SourceIndex.Proofs.Path.Kinds
import SourceIndex.Proofs.Cache.Fallbacks
import SourceIndex.Proofs.Cache.Unreached
