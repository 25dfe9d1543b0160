import SchemaDrift.Catalog.Basic
import SchemaDrift.Catalog.Definition
import SchemaDrift.Catalog.Execution
import SchemaDrift.Catalog.Introspection
import SchemaDrift.Command.Display
import SchemaDrift.Command.Line
import SchemaDrift.Command.Run
import SchemaDrift.Ddl.Basic
import SchemaDrift.Ddl.Json
import SchemaDrift.Digest.Sha256
import SchemaDrift.FileTree
import SchemaDrift.Fix.Basic
import SchemaDrift.Fix.Json
import SchemaDrift.Fix.Plan
import SchemaDrift.Fix.Synthesis
import SchemaDrift.Fix.Validation
import SchemaDrift.Host.Arguments
import SchemaDrift.Host.Brackets
import SchemaDrift.Host.Cursor
import SchemaDrift.Host.Language
import SchemaDrift.Host.Literal
import SchemaDrift.Host.Placeholder
import SchemaDrift.Host.Style
import SchemaDrift.Http.Request
import SchemaDrift.Http.Response
import SchemaDrift.Identifier
import SchemaDrift.Inference.Classification
import SchemaDrift.Inference.Column
import SchemaDrift.Inference.Json
import SchemaDrift.Inference.Schema
import SchemaDrift.Issue.Basic
import SchemaDrift.Issue.Detection
import SchemaDrift.Issue.Json
import SchemaDrift.Issue.Reconciliation
import SchemaDrift.Json.Reader
import SchemaDrift.Json.Value
import SchemaDrift.Json.Writer
import SchemaDrift.Keyed
import SchemaDrift.Live.Table
import SchemaDrift.Location
import SchemaDrift.LogicalType.Basic
import SchemaDrift.LogicalType.Json
import SchemaDrift.LogicalType.Spelling
import SchemaDrift.Monitor.Backoff
import SchemaDrift.Monitor.Cycle
import SchemaDrift.Monitor.Json
import SchemaDrift.Monitor.Service
import SchemaDrift.Monitor.State
import SchemaDrift.Monitor.Timeline
import SchemaDrift.Path
import SchemaDrift.Report
import SchemaDrift.Scan.Source
import SchemaDrift.Scan.Tree
import SchemaDrift.Settings.Basic
import SchemaDrift.Settings.Document
import SchemaDrift.Sql.Grammar.Administration
import SchemaDrift.Sql.Grammar.Basic
import SchemaDrift.Sql.Grammar.Change
import SchemaDrift.Sql.Grammar.DataType
import SchemaDrift.Sql.Grammar.Definition
import SchemaDrift.Sql.Grammar.Expression
import SchemaDrift.Sql.Grammar.Precedence
import SchemaDrift.Sql.Grammar.Query
import SchemaDrift.Sql.Grammar.Session
import SchemaDrift.Sql.Grammar.Source
import SchemaDrift.Sql.Grammar.Statement
import SchemaDrift.Sql.Grammar.Table
import SchemaDrift.Sql.Grammar.Transfer
import SchemaDrift.Sql.Keyword
import SchemaDrift.Sql.Lexer
import SchemaDrift.Sql.Rendering
import SchemaDrift.Sql.Script
import SchemaDrift.Sql.Token
import SchemaDrift.Sql.Tree
import SchemaDrift.Store.Basic
import SchemaDrift.Text.Alphabet
import SchemaDrift.Text.Case
import SchemaDrift.Text.Chars
import SchemaDrift.Text.Utf8
import SchemaDrift.Time.Moment
import SchemaDrift.Time.Span
import SchemaDrift.Toml.Reader
import SchemaDrift.Toml.Value
import SchemaDrift.Toml.Writer
import SchemaDrift.Usage.Basic
import SchemaDrift.Usage.Extraction
import SchemaDrift.Main
import SchemaDrift.Proofs.Fix.Denylist
import SchemaDrift.Proofs.Fix.Plan
import SchemaDrift.Proofs.Issue.Known
import SchemaDrift.Proofs.Monitor.Events
import SchemaDrift.Proofs.Monitor.Planning
import SchemaDrift.Proofs.Monitor.Service
import SchemaDrift.Proofs.Catalog.Additions
import SchemaDrift.Proofs.Catalog.Runs
import SchemaDrift.Proofs.Fix.Healing
import SchemaDrift.Proofs.Fix.Remedy
import SchemaDrift.Proofs.Fix.Rounds
import SchemaDrift.Proofs.Issue.Tracking
import SchemaDrift.Proofs.Monitor.Cycling
import SchemaDrift.Proofs.Monitor.Sanction
import SchemaDrift.Proofs.Issue.Reconciliation
import SchemaDrift.Proofs.Monitor.Convergence
import SchemaDrift.Proofs.Host.Bounds
import SchemaDrift.Proofs.Monitor.Failure
import SchemaDrift.Proofs.Monitor.Record
import SchemaDrift.Proofs.Monitor.Interleaving
import SchemaDrift.Proofs.Location
import SchemaDrift.Proofs.LogicalType.Widening
import SchemaDrift.Proofs.Inference.Merging
import SchemaDrift.Proofs.Inference.Holding
import SchemaDrift.Proofs.Issue.Exactness
import SchemaDrift.Proofs.Ddl.Naming
import SchemaDrift.Proofs.Fix.Wording
import SchemaDrift.Proofs.Inference.Places
import SchemaDrift.Proofs.Fix.Agreement
import SchemaDrift.Proofs.Monitor.Pause
import SchemaDrift.Proofs.Monitor.Status
import SchemaDrift.Proofs.Monitor.Accounting
import SchemaDrift.Proofs.Monitor.Provenance
import SchemaDrift.Proofs.Monitor.Preview
import SchemaDrift.Proofs.Ddl.Reach
import SchemaDrift.Proofs.Catalog.Commutation
import SchemaDrift.Proofs.Catalog.Rerun
import SchemaDrift.Proofs.Ddl.Rendering
import SchemaDrift.Proofs.Store.Calls
import SchemaDrift.Proofs.Store.Executions
import SchemaDrift.Proofs.Issue.Growth
import SchemaDrift.Proofs.Usage.Listing
import SchemaDrift.Proofs.Usage.Attribution
import SchemaDrift.Proofs.Host.Rewriting
import SchemaDrift.Proofs.Host.Marks
import SchemaDrift.Proofs.Host.Interpolation
import SchemaDrift.Proofs.Host.Decoding
import SchemaDrift.Proofs.Host.Numbering
import SchemaDrift.Proofs.Sql.Placement
import SchemaDrift.Proofs.Settings.Redaction
import SchemaDrift.Proofs.Ddl.IndexNames
import SchemaDrift.Proofs.Host.Grouping
import SchemaDrift.Proofs.Host.Keywords
import SchemaDrift.Proofs.Text.Case
import SchemaDrift.Proofs.LogicalType.RoundTrip
import SchemaDrift.Proofs.Issue.Identity
import SchemaDrift.Proofs.Fix.Rollback
import SchemaDrift.Proofs.Usage.Consistency
import SchemaDrift.Proofs.Inference.Tally
import SchemaDrift.Proofs.Fix.Expectation
import SchemaDrift.Proofs.Issue.Rejection
import SchemaDrift.Proofs.Monitor.Rejection
import SchemaDrift.Proofs.Monitor.Backoff
import SchemaDrift.Proofs.LogicalType.Order
