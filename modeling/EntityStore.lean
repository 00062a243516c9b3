import EntityStore.Calendar.Date
import EntityStore.Calendar.Instant
import EntityStore.Calendar.Printer
import EntityStore.Calendar.Reader
import EntityStore.Column
import EntityStore.Condition
import EntityStore.DataSource
import EntityStore.Decimal.Layout
import EntityStore.Decimal.Reader
import EntityStore.Decimal.Shortest
import EntityStore.Dialect
import EntityStore.Dialect.Upsert
import EntityStore.Driver
import EntityStore.Error
import EntityStore.Field
import EntityStore.Identifier
import EntityStore.Json.Basic
import EntityStore.Json.Printer
import EntityStore.Json.Reader
import EntityStore.Json.Token
import EntityStore.Migration
import EntityStore.Migration.Executor
import EntityStore.Migration.History
import EntityStore.Options
import EntityStore.Options.File
import EntityStore.Options.Override
import EntityStore.Options.Reader
import EntityStore.Page
import EntityStore.Page.Reader
import EntityStore.Proofs.Ascending
import EntityStore.Proofs.Calendar.Order
import EntityStore.Proofs.Calendar.RoundTrip
import EntityStore.Proofs.Condition.Predicate
import EntityStore.Proofs.Condition.Reading
import EntityStore.Proofs.Condition.Stored
import EntityStore.Proofs.Condition.Token
import EntityStore.Proofs.Condition.Truth
import EntityStore.Proofs.Identifier.Grammar
import EntityStore.Proofs.Identifier.SelectName
import EntityStore.Proofs.Json.Length
import EntityStore.Proofs.Json.Reading
import EntityStore.Proofs.Json.Token
import EntityStore.Proofs.Keyed
import EntityStore.Proofs.Migration.Account
import EntityStore.Proofs.Migration.Archive
import EntityStore.Proofs.Migration.Attempt
import EntityStore.Proofs.Migration.Body
import EntityStore.Proofs.Migration.Bootstrap
import EntityStore.Proofs.Migration.Declaration
import EntityStore.Proofs.Migration.Executor
import EntityStore.Proofs.Migration.History
import EntityStore.Proofs.Migration.Once
import EntityStore.Proofs.Migration.Pending
import EntityStore.Proofs.Migration.Retreat
import EntityStore.Proofs.Migration.Revert
import EntityStore.Proofs.Migration.Structured
import EntityStore.Proofs.Options.Override
import EntityStore.Proofs.Page.Cursor
import EntityStore.Proofs.Page.Offset
import EntityStore.Proofs.Page.Presence
import EntityStore.Proofs.Page.Resumption
import EntityStore.Proofs.Page.Visit
import EntityStore.Proofs.Query.Answer
import EntityStore.Proofs.Query.Inverse
import EntityStore.Proofs.Query.Joining
import EntityStore.Proofs.Query.Matching
import EntityStore.Proofs.Query.Naming
import EntityStore.Proofs.Query.Qualification
import EntityStore.Proofs.Query.Refusal
import EntityStore.Proofs.Query.Renaming
import EntityStore.Proofs.Query.Selection
import EntityStore.Proofs.Query.Total
import EntityStore.Proofs.Record
import EntityStore.Proofs.Registry.Merging
import EntityStore.Proofs.Result
import EntityStore.Proofs.Savepoint.Course
import EntityStore.Proofs.Savepoint.Name
import EntityStore.Proofs.Savepoint.Naming
import EntityStore.Proofs.Schema.Default
import EntityStore.Proofs.Schema.Definition
import EntityStore.Proofs.Schema.Literal
import EntityStore.Proofs.Statement.Acceptance
import EntityStore.Proofs.Statement.Batch
import EntityStore.Proofs.Statement.Clauses
import EntityStore.Proofs.Statement.Completeness
import EntityStore.Proofs.Statement.Conditions
import EntityStore.Proofs.Statement.Counting
import EntityStore.Proofs.Statement.Filling
import EntityStore.Proofs.Statement.Independence
import EntityStore.Proofs.Statement.Placeholder
import EntityStore.Proofs.Statement.Preparation
import EntityStore.Proofs.Statement.Qualifier
import EntityStore.Proofs.Statement.Row
import EntityStore.Proofs.Statement.Saving
import EntityStore.Proofs.Statement.Scanning
import EntityStore.Proofs.Statement.Shape
import EntityStore.Proofs.Statement.Spacing
import EntityStore.Proofs.Statement.Upsert
import EntityStore.Proofs.Storage.Canonical
import EntityStore.Proofs.Storage.Chain
import EntityStore.Proofs.Storage.Field
import EntityStore.Proofs.Storage.RoundTrip
import EntityStore.Proofs.Storage.Sorting
import EntityStore.Proofs.Text.Octet
import EntityStore.Proofs.Text.Trim
import EntityStore.Proofs.Transaction.Atomicity
import EntityStore.Proofs.Transaction.Callback
import EntityStore.Proofs.Transaction.Life
import EntityStore.Proofs.Transaction.Nesting
import EntityStore.Proofs.Transaction.Program
import EntityStore.Proofs.Transaction.Report
import EntityStore.Proofs.Transaction.Root
import EntityStore.Proofs.Transaction.Session
import EntityStore.Proofs.Transaction.Store
import EntityStore.Proofs.Transaction.Turn
import EntityStore.Query
import EntityStore.Query.Clause
import EntityStore.Query.Execution
import EntityStore.Query.Reference
import EntityStore.Query.Relation
import EntityStore.Query.Select
import EntityStore.Record
import EntityStore.Registry
import EntityStore.Relation
import EntityStore.Repository
import EntityStore.Savepoint
import EntityStore.Schema
import EntityStore.Session
import EntityStore.Sql
import EntityStore.Storage
import EntityStore.Table
import EntityStore.Table.Row
import EntityStore.Text.Blank
import EntityStore.Text.Case
import EntityStore.Text.Numeral
import EntityStore.Transaction
import EntityStore.Uuid
import EntityStore.Value
import EntityStore.Yaml.Block
import EntityStore.Yaml.Document
import EntityStore.Yaml.Node
import EntityStore.Yaml.Place
import EntityStore.Yaml.Scalar
import EntityStore.Yaml.Tag
import EntityStore.Yaml.Token
