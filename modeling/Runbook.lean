import Runbook.App
import Runbook.Arguments
import Runbook.Artifact
import Runbook.Command
import Runbook.Command.Check
import Runbook.Command.Run
import Runbook.Confirmation
import Runbook.Dashboard
import Runbook.Dashboard.Binding
import Runbook.Dashboard.Check
import Runbook.Dashboard.Shape
import Runbook.Date
import Runbook.Decimal
import Runbook.Dict
import Runbook.Document
import Runbook.Document.Word
import Runbook.Event
import Runbook.Failure
import Runbook.Field
import Runbook.Field.Check
import Runbook.Field.Validate
import Runbook.Files
import Runbook.Files.Tree
import Runbook.Finding
import Runbook.Http.Compile
import Runbook.Http.Exchange
import Runbook.Http.Outgoing
import Runbook.Instant
import Runbook.Json
import Runbook.Json.Binary64
import Runbook.Json.Path
import Runbook.Json.Printer
import Runbook.Json.Reader
import Runbook.Json.Shape
import Runbook.Json.Written
import Runbook.Limits
import Runbook.Main
import Runbook.Network
import Runbook.Outcome
import Runbook.Pair
import Runbook.Postgres.Address
import Runbook.Postgres.Binding
import Runbook.Postgres.Exchange
import Runbook.Postgres.Introspection
import Runbook.Postgres.Wrapping
import Runbook.Project
import Runbook.Project.Load
import Runbook.Proofs.Batch
import Runbook.Proofs.Results
import Runbook.Query
import Runbook.RunError
import Runbook.Runner
import Runbook.Session
import Runbook.Session.Desk
import Runbook.Sql.Compile
import Runbook.Sql.Scan
import Runbook.Sql.Schema
import Runbook.Sql.Statement
import Runbook.System
import Runbook.System.Memory
import Runbook.Template
import Runbook.Text
import Runbook.Text.Base64
import Runbook.Text.Digits
import Runbook.Text.Mark
import Runbook.Text.Normal
import Runbook.Text.Normal.Classes
import Runbook.Text.Normal.Composites
import Runbook.Text.Percent
import Runbook.Text.Punycode
import Runbook.Text.Quoted
import Runbook.Text.Ranges
import Runbook.Text.Replacement
import Runbook.Text.Shown
import Runbook.Text.Utf8
import Runbook.Text.Uuid
import Runbook.TypedValue
import Runbook.Url
import Runbook.Url.Domain
import Runbook.Url.Domain.Direction
import Runbook.Url.Domain.Joining
import Runbook.Url.Domain.Mapping
import Runbook.Url.Host
import Runbook.Url.Reader
import Runbook.User
import Runbook.Yaml.Cursor
import Runbook.Yaml.Node
import Runbook.Yaml.Reader
import Runbook.Yaml.Scalar
import Runbook.Yaml.Token
import Runbook.Yaml.Token.Lexer
import Runbook.Proofs.Sql.Selecting
import Runbook.Proofs.Sql.Written
import Runbook.Proofs.Sql.SameSlots
import Runbook.Proofs.Sql.Outline
import Runbook.Proofs.Session.Steps
import Runbook.Proofs.Runs
import Runbook.Proofs.Session.Refusals
import Runbook.Proofs.Session.Running
import Runbook.Proofs.Session.Coherence
import Runbook.Proofs.Session.Unchanged
import Runbook.Proofs.Session.Twin
import Runbook.Proofs.Session.Renewal
import Runbook.Proofs.Session.Course
import Runbook.Proofs.Session.Confirming
import Runbook.Proofs.Session.Loading
import Runbook.Proofs.Sql.Shown
import Runbook.Proofs.Sql.Lexeme
import Runbook.Proofs.Sql.Grammar
import Runbook.Proofs.Sql.Scanning
import Runbook.Proofs.Sql.Numbering
import Runbook.Proofs.Dict
import Runbook.Proofs.Sql.Typing
import Runbook.Proofs.Deeds
import Runbook.Proofs.Guarded
import Runbook.Proofs.FirstAppearance
import Runbook.Proofs.Template.Canonical
import Runbook.Proofs.Template.Resolution
import Runbook.Proofs.Http.Compiling
import Runbook.Proofs.Project.Sound
import Runbook.Proofs.Project.Running
import Runbook.Proofs.Field.Rendering
import Runbook.Proofs.Postgres.Binding
import Runbook.Proofs.Document.Arrangement
import Runbook.Proofs.Document.Reading
import Runbook.Proofs.Document.Stored
import Runbook.Proofs.Session.Recording
import Runbook.Proofs.Sql.Outcome
import Runbook.Proofs.Previews
import Runbook.Proofs.Session.Foretelling
import Runbook.Proofs.Trail
import Runbook.Proofs.Sql.Declaring
import Runbook.Proofs.Sql.Comments
import Runbook.Proofs.Sql.Bare
import Runbook.Proofs.Sql.Neighbours
import Runbook.Proofs.Postgres.Leading
import Runbook.Proofs.Postgres.Wrapping
import Runbook.Proofs.Decimal.Printing
import Runbook.Proofs.Sql.Coercing
import Runbook.Proofs.Field.Languages
import Runbook.Proofs.Field.Lists
import Runbook.Proofs.Dashboard.Binding
import Runbook.Proofs.Json.Path
import Runbook.Proofs.Dashboard.Check
import Runbook.Proofs.Dashboard.Shape
import Runbook.Proofs.Dashboard.Layout
import Runbook.Proofs.Sql.Lookup
import Runbook.Proofs.Session.Expiring
import Runbook.Proofs.Instant
import Runbook.Proofs.RunInput
