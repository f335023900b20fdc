import RetrySafe.Config.Basic
import RetrySafe.Config.Directory
import RetrySafe.Config.Document
import RetrySafe.Config.Error
import RetrySafe.Config.Layers
import RetrySafe.Config.Validation
import RetrySafe.Config.Written
import RetrySafe.Decimal.Digits
import RetrySafe.Decimal.Double
import RetrySafe.Decimal.Shortest
import RetrySafe.Defaults
import RetrySafe.Engine.Basic
import RetrySafe.Files.Path
import RetrySafe.Files.Tree
import RetrySafe.Guard.Action
import RetrySafe.Guard.Basic
import RetrySafe.Guard.Error
import RetrySafe.Guard.OperationId
import RetrySafe.Guard.Statement
import RetrySafe.Journal
import RetrySafe.Json.Basic
import RetrySafe.Json.Reader
import RetrySafe.Json.Typed
import RetrySafe.Json.Writer
import RetrySafe.Logging.Filter
import RetrySafe.Logging.Pattern
import RetrySafe.Report.Config
import RetrySafe.Report.Error
import RetrySafe.Report.Task
import RetrySafe.Secret.Error
import RetrySafe.Secret.Grant
import RetrySafe.Secret.Key
import RetrySafe.Secret.Policy
import RetrySafe.Secret.Resolver
import RetrySafe.Secret.Selector
import RetrySafe.Secret.Template
import RetrySafe.Secret.Vault
import RetrySafe.Session.Cell
import RetrySafe.Session.Correction
import RetrySafe.Session.Error
import RetrySafe.Session.Header
import RetrySafe.Session.Location
import RetrySafe.Session.Manager
import RetrySafe.Session.Model
import RetrySafe.Session.Opening
import RetrySafe.Session.Store
import RetrySafe.Session.Table
import RetrySafe.Session.Validation
import RetrySafe.Sql.Command
import RetrySafe.Sql.Token
import RetrySafe.Target.Basic
import RetrySafe.Target.Catalog
import RetrySafe.Target.Database
import RetrySafe.Target.Rehearsal
import RetrySafe.Target.Sample
import RetrySafe.Task.Backoff
import RetrySafe.Task.Error
import RetrySafe.Task.Round
import RetrySafe.Task.Runner
import RetrySafe.Task.Script
import RetrySafe.Task.Store
import RetrySafe.Text.Alphanumeric
import RetrySafe.Text.Blank
import RetrySafe.Text.Hidden
import RetrySafe.Text.Identifier
import RetrySafe.Text.Quoted
import RetrySafe.Text.Separated
import RetrySafe.Time.Date
import RetrySafe.Time.Duration
import RetrySafe.Time.Instant
import RetrySafe.Time.Rfc3339
import RetrySafe.Toml.Blank
import RetrySafe.Toml.Document
import RetrySafe.Toml.Moment
import RetrySafe.Toml.Numeral
import RetrySafe.Toml.Table
import RetrySafe.Toml.Text
import RetrySafe.Toml.Value
import RetrySafe.Toml.Writer
import RetrySafe.Proofs.Association
import RetrySafe.Proofs.Config.Layering
import RetrySafe.Proofs.Config.RoundTrip
import RetrySafe.Proofs.Decimal.Digits
import RetrySafe.Proofs.Decimal.Rounding
import RetrySafe.Proofs.Decimal.Scientific
import RetrySafe.Proofs.Decimal.Shortest
import RetrySafe.Proofs.Files.Saved
import RetrySafe.Proofs.Guard.Cleanup
import RetrySafe.Proofs.Guard.Conflict
import RetrySafe.Proofs.Guard.Course
import RetrySafe.Proofs.Guard.Discipline
import RetrySafe.Proofs.Guard.ExactlyOnce
import RetrySafe.Proofs.Guard.History
import RetrySafe.Proofs.Guard.Purging
import RetrySafe.Proofs.Guard.Recording
import RetrySafe.Proofs.Guard.Retention
import RetrySafe.Proofs.Guard.Undoing
import RetrySafe.Proofs.Json.Numbers
import RetrySafe.Proofs.Json.RoundTrip
import RetrySafe.Proofs.Json.Strings
import RetrySafe.Proofs.Results
import RetrySafe.Proofs.Secret.Access
import RetrySafe.Proofs.Secret.GrantDocuments
import RetrySafe.Proofs.Secret.Grants
import RetrySafe.Proofs.Secret.Keys
import RetrySafe.Proofs.Secret.Noninterference
import RetrySafe.Proofs.Secret.Prefixes
import RetrySafe.Proofs.Secret.Selectors
import RetrySafe.Proofs.Secret.Templates
import RetrySafe.Proofs.Secret.Views
import RetrySafe.Proofs.Session.Atomicity
import RetrySafe.Proofs.Session.Consistency
import RetrySafe.Proofs.Session.Dating
import RetrySafe.Proofs.Session.Duplicate
import RetrySafe.Proofs.Session.Findable
import RetrySafe.Proofs.Session.Growth
import RetrySafe.Proofs.Session.Insertion
import RetrySafe.Proofs.Session.Isolation
import RetrySafe.Proofs.Session.Legible
import RetrySafe.Proofs.Session.Lookup
import RetrySafe.Proofs.Session.Operation
import RetrySafe.Proofs.Session.Orderly
import RetrySafe.Proofs.Session.Refinement
import RetrySafe.Proofs.Session.Sought
import RetrySafe.Proofs.Session.StorageErrors
import RetrySafe.Proofs.Session.WellFormed
import RetrySafe.Proofs.Target.Changes
import RetrySafe.Proofs.Target.Mirror
import RetrySafe.Proofs.Target.Primitives
import RetrySafe.Proofs.Target.StatusTable
import RetrySafe.Proofs.Target.Transaction
import RetrySafe.Proofs.Task.AtMostOnce
import RetrySafe.Proofs.Task.Attempt
import RetrySafe.Proofs.Task.Clearing
import RetrySafe.Proofs.Task.Guarded
import RetrySafe.Proofs.Task.Interference
import RetrySafe.Proofs.Task.Iteration
import RetrySafe.Proofs.Task.Job
import RetrySafe.Proofs.Task.Keeping
import RetrySafe.Proofs.Task.Persistence
import RetrySafe.Proofs.Task.Polling
import RetrySafe.Proofs.Task.Resumption
import RetrySafe.Proofs.Task.Runs
import RetrySafe.Proofs.Task.Waiting
import RetrySafe.Proofs.Text.Trimming
import RetrySafe.Proofs.Time.Bytes
import RetrySafe.Proofs.Time.Order
import RetrySafe.Proofs.Time.Reading
import RetrySafe.Proofs.Toml.Documents
import RetrySafe.Proofs.Toml.Texts
import RetrySafe.Proofs.Toml.Values
