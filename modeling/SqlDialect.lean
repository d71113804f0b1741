import SqlDialect.Binding.Record
import SqlDialect.Catalog
import SqlDialect.Config.Reader
import SqlDialect.Dialect.RowStatement
import SqlDialect.Dialect.TableStatement
import SqlDialect.Registry
import SqlDialect.Proofs.Identifier.RoundTrip
import SqlDialect.Proofs.Lexing.Sql
import SqlDialect.Proofs.Statement.Structure
import SqlDialect.Proofs.Binding.Run
import SqlDialect.Proofs.Statement.Parameters
import SqlDialect.Proofs.Binding.Handlers
import SqlDialect.Proofs.Binding.Payload
import SqlDialect.Proofs.Url.Password
import SqlDialect.Proofs.Url.Credential
import SqlDialect.Proofs.Url.Secrecy
import SqlDialect.Proofs.Url.Twice
import SqlDialect.Proofs.Identifier.Grammar
import SqlDialect.Proofs.Lexing.Literal
import SqlDialect.Proofs.Statement.Definition
import SqlDialect.Proofs.Binding.Refinement
import SqlDialect.Proofs.Binding.Instants
import SqlDialect.Proofs.Binding.Prefix
import SqlDialect.Proofs.Binding.CommonDriver
import SqlDialect.Proofs.Binding.Session
import SqlDialect.Proofs.Binding.LengthHint
import SqlDialect.Proofs.Url.Exposure
import SqlDialect.Proofs.Url.Selection
import SqlDialect.Proofs.Binding.Failure
import SqlDialect.Proofs.Statement.Guarded
import SqlDialect.Proofs.Text.Case
import SqlDialect.Proofs.Identifier.Unquoted
import SqlDialect.Proofs.Number.Digits
import SqlDialect.Proofs.Calendar.DayCount
import SqlDialect.Proofs.Calendar.TimestampText
import SqlDialect.Proofs.Calendar.InstantText
import SqlDialect.Proofs.Calendar.WrittenTimestamp
import SqlDialect.Proofs.Binding.WrittenInstants
import SqlDialect.Proofs.Url.Parameters
import SqlDialect.Proofs.Url.FixedPoints
import SqlDialect.Proofs.Calendar.EpochNanos
import SqlDialect.Proofs.Binding.EpochInstants
import SqlDialect.Proofs.Number.Text
import SqlDialect.Proofs.Calendar.Text
import SqlDialect.Proofs.Value.Literal
import SqlDialect.Proofs.Binding.ColumnLookup
import SqlDialect.Proofs.Binding.Respelling
import SqlDialect.Proofs.Json.Number
import SqlDialect.Proofs.Json.Spelling
import SqlDialect.Proofs.Json.Grammar
import SqlDialect.Proofs.Config.Members
import SqlDialect.Proofs.Config.FieldNames
import SqlDialect.Proofs.Schema.DecimalScale
import SqlDialect.Proofs.Binding.LargeText
import SqlDialect.Proofs.Url.Parts
import SqlDialect.Proofs.Url.Spelling
import SqlDialect.Proofs.Catalog.Synonym
