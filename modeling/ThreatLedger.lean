import ThreatLedger.Access.Caller
import ThreatLedger.Access.Encoding
import ThreatLedger.Access.Role
import ThreatLedger.Access.Rule
import ThreatLedger.Binary64.Basic
import ThreatLedger.Binary64.Shortest
import ThreatLedger.Bytes
import ThreatLedger.CommandLine.Arguments
import ThreatLedger.CommandLine.Generated
import ThreatLedger.CommandLine.Invocation
import ThreatLedger.CommandLine.Level
import ThreatLedger.CommandLine.Run
import ThreatLedger.CommandLine.Submission
import ThreatLedger.Config
import ThreatLedger.Digest.Sha256
import ThreatLedger.Files.Locator
import ThreatLedger.Files.Opening
import ThreatLedger.Files.Path
import ThreatLedger.Files.Tree
import ThreatLedger.Json.Error
import ThreatLedger.Json.Lexeme
import ThreatLedger.Json.Number
import ThreatLedger.Json.Pass
import ThreatLedger.Json.Printer
import ThreatLedger.Json.Raw
import ThreatLedger.Json.Schema
import ThreatLedger.Json.Text
import ThreatLedger.Json.Typed
import ThreatLedger.Json.Value
import ThreatLedger.Ledger.Command
import ThreatLedger.Ledger.Error
import ThreatLedger.Ledger.Operations
import ThreatLedger.Log.Event
import ThreatLedger.Main
import ThreatLedger.Record.Basic
import ThreatLedger.Record.Encoding
import ThreatLedger.Stix.Catalog
import ThreatLedger.Stix.Kind
import ThreatLedger.Stix.Object
import ThreatLedger.Store.Action
import ThreatLedger.Store.Basic
import ThreatLedger.Store.Database
import ThreatLedger.Store.Error
import ThreatLedger.Store.Handles
import ThreatLedger.Store.KeyMap
import ThreatLedger.Store.Memory
import ThreatLedger.Store.ReadOnly
import ThreatLedger.Store.Refusing
import ThreatLedger.Store.Script
import ThreatLedger.Store.Snapshot
import ThreatLedger.Text.Ascii
import ThreatLedger.Text.Combining
import ThreatLedger.Text.Invisible
import ThreatLedger.Text.Padded
import ThreatLedger.Text.Quoted
import ThreatLedger.Text.Reader
import ThreatLedger.Toml.Document
import ThreatLedger.Toml.Lexeme
import ThreatLedger.Toml.Moment
import ThreatLedger.Toml.Scalar
import ThreatLedger.Toml.Table
import ThreatLedger.Toml.Text
import ThreatLedger.Toml.Value
import ThreatLedger.Proofs.Access.RuleTable
import ThreatLedger.Proofs.CommandLine.Senders
import ThreatLedger.Proofs.CommandLine.Submissions
import ThreatLedger.Proofs.CommandLine.Switches
import ThreatLedger.Proofs.Json.Foreign
import ThreatLedger.Proofs.Json.Grammar
import ThreatLedger.Proofs.Json.Integers
import ThreatLedger.Proofs.Json.Invariants
import ThreatLedger.Proofs.Json.Passing
import ThreatLedger.Proofs.Json.RawValues
import ThreatLedger.Proofs.Json.RoundTrip
import ThreatLedger.Proofs.Json.Texts
import ThreatLedger.Proofs.Json.Tolerance
import ThreatLedger.Proofs.Ledger.Accounting
import ThreatLedger.Proofs.Ledger.Accounts
import ThreatLedger.Proofs.Ledger.Admission
import ThreatLedger.Proofs.Ledger.Announcements
import ThreatLedger.Proofs.Ledger.Answers
import ThreatLedger.Proofs.Ledger.Atomicity
import ThreatLedger.Proofs.Ledger.Bodies
import ThreatLedger.Proofs.Ledger.Commutation
import ThreatLedger.Proofs.Ledger.CorruptEntries
import ThreatLedger.Proofs.Ledger.Granting
import ThreatLedger.Proofs.Ledger.Integrity
import ThreatLedger.Proofs.Ledger.Interleaving
import ThreatLedger.Proofs.Ledger.LogSecrecy
import ThreatLedger.Proofs.Ledger.Mediation
import ThreatLedger.Proofs.Ledger.Noninterference
import ThreatLedger.Proofs.Ledger.OpenAccess
import ThreatLedger.Proofs.Ledger.Pagination
import ThreatLedger.Proofs.Ledger.Privilege
import ThreatLedger.Proofs.Ledger.Protection
import ThreatLedger.Proofs.Ledger.Refinement
import ThreatLedger.Proofs.Ledger.RefusedCommit
import ThreatLedger.Proofs.Ledger.Registry
import ThreatLedger.Proofs.Ledger.Reports
import ThreatLedger.Proofs.Ledger.RequiredFields
import ThreatLedger.Proofs.Ledger.Visibility
import ThreatLedger.Proofs.Ledger.Warnings
import ThreatLedger.Proofs.Record.Fields
import ThreatLedger.Proofs.Record.Lossless
import ThreatLedger.Proofs.Record.RoundTrip
import ThreatLedger.Proofs.Record.Tolerance
import ThreatLedger.Proofs.Results
import ThreatLedger.Proofs.Stix.Answers
import ThreatLedger.Proofs.Stix.Catalog
import ThreatLedger.Proofs.Stix.Contract
import ThreatLedger.Proofs.Stix.Dump
import ThreatLedger.Proofs.Stix.RoundTrip
import ThreatLedger.Proofs.Stix.Views
import ThreatLedger.Proofs.Store.Agreement
import ThreatLedger.Proofs.Store.Backends
import ThreatLedger.Proofs.Store.Blocks
import ThreatLedger.Proofs.Store.Closures
import ThreatLedger.Proofs.Store.Connections
import ThreatLedger.Proofs.Store.Courses
import ThreatLedger.Proofs.Store.Effects
import ThreatLedger.Proofs.Store.Handles
import ThreatLedger.Proofs.Store.Invocations
import ThreatLedger.Proofs.Store.Mirroring
import ThreatLedger.Proofs.Store.Namespaces
import ThreatLedger.Proofs.Store.Reading
import ThreatLedger.Proofs.Store.Reference
import ThreatLedger.Proofs.Store.Refusals
import ThreatLedger.Proofs.Store.Scans
import ThreatLedger.Proofs.Store.Sharing
import ThreatLedger.Proofs.Store.Tracking
import ThreatLedger.Proofs.Text.ByteOrder
