import TableQuery.Calendar.Basic
import TableQuery.Calendar.Reader
import TableQuery.Calendar.Timestamp
import TableQuery.Classification
import TableQuery.DatabaseError
import TableQuery.Driver.Adapter
import TableQuery.Driver.Basic
import TableQuery.Driver.MySql
import TableQuery.Driver.PostgreSql
import TableQuery.Driver.Sqlite
import TableQuery.Failure
import TableQuery.Json.Reader
import TableQuery.Json.Writer
import TableQuery.Memo
import TableQuery.Misuse
import TableQuery.Model.Basic
import TableQuery.Model.Conversion
import TableQuery.Model.Declaration
import TableQuery.Model.Fit
import TableQuery.Model.Rows
import TableQuery.Model.Scalar
import TableQuery.Model.Validation
import TableQuery.Number.Decimal
import TableQuery.Number.Double
import TableQuery.Number.Numeral
import TableQuery.Number.Rounding
import TableQuery.Number.Shortest
import TableQuery.Preload
import TableQuery.Program
import TableQuery.Proofs.Abreast
import TableQuery.Proofs.AlignedOperations
import TableQuery.Proofs.AlignedStatements
import TableQuery.Proofs.Alignment
import TableQuery.Proofs.Assignments
import TableQuery.Proofs.BulkOperations
import TableQuery.Proofs.CheckedChanges
import TableQuery.Proofs.Clauses
import TableQuery.Proofs.Codecs
import TableQuery.Proofs.ColumnPolicies
import TableQuery.Proofs.Compilation
import TableQuery.Proofs.CompilationOutcomes
import TableQuery.Proofs.Conjunction
import TableQuery.Proofs.Conjuncts
import TableQuery.Proofs.Connections
import TableQuery.Proofs.Connectives
import TableQuery.Proofs.Courses
import TableQuery.Proofs.Cutting
import TableQuery.Proofs.DecisiveCodes
import TableQuery.Proofs.DoubleText
import TableQuery.Proofs.DriverCalls
import TableQuery.Proofs.DuplicateDetails
import TableQuery.Proofs.FailedStatements
import TableQuery.Proofs.FieldMatching
import TableQuery.Proofs.FilledRules
import TableQuery.Proofs.Fragments
import TableQuery.Proofs.HiddenRows
import TableQuery.Proofs.HidingStatements
import TableQuery.Proofs.Histories
import TableQuery.Proofs.Identifiers
import TableQuery.Proofs.JoinedRows
import TableQuery.Proofs.Joining
import TableQuery.Proofs.JsonColumns
import TableQuery.Proofs.JsonGrammar
import TableQuery.Proofs.JsonReading
import TableQuery.Proofs.JsonRoundTrip
import TableQuery.Proofs.JsonText
import TableQuery.Proofs.KeyTest
import TableQuery.Proofs.KeyedOperations
import TableQuery.Proofs.LastPages
import TableQuery.Proofs.Legibility
import TableQuery.Proofs.LikeStatements
import TableQuery.Proofs.Likeness
import TableQuery.Proofs.MadeQueries
import TableQuery.Proofs.MalformedQueries
import TableQuery.Proofs.Marks
import TableQuery.Proofs.NearestDoubles
import TableQuery.Proofs.NumberAndText
import TableQuery.Proofs.Numerals
import TableQuery.Proofs.Operations
import TableQuery.Proofs.Operators
import TableQuery.Proofs.Outcomes
import TableQuery.Proofs.PageWindows
import TableQuery.Proofs.ParameterFaults
import TableQuery.Proofs.ParameterItems
import TableQuery.Proofs.ParameterText
import TableQuery.Proofs.PercentFormats
import TableQuery.Proofs.PredicateReading
import TableQuery.Proofs.PrefixTrees
import TableQuery.Proofs.Preloading
import TableQuery.Proofs.ProbedRows
import TableQuery.Proofs.ProbedValues
import TableQuery.Proofs.QuotedNames
import TableQuery.Proofs.ReadBack
import TableQuery.Proofs.ReadFailures
import TableQuery.Proofs.ReadRequests
import TableQuery.Proofs.Readiness
import TableQuery.Proofs.Reading
import TableQuery.Proofs.RelationPaths
import TableQuery.Proofs.Rendering
import TableQuery.Proofs.Requests
import TableQuery.Proofs.RowDecoding
import TableQuery.Proofs.Rows
import TableQuery.Proofs.RuleChecks
import TableQuery.Proofs.RulesInOrder
import TableQuery.Proofs.Searching
import TableQuery.Proofs.ServerMessages
import TableQuery.Proofs.ServiceCalls
import TableQuery.Proofs.SoundQueries
import TableQuery.Proofs.SpelledStatements
import TableQuery.Proofs.StoredEntities
import TableQuery.Proofs.StoredForms
import TableQuery.Proofs.StoredText
import TableQuery.Proofs.Substitution
import TableQuery.Proofs.Sums
import TableQuery.Proofs.TestReading
import TableQuery.Proofs.Transactions
import TableQuery.Proofs.UncheckedRows
import TableQuery.Proofs.ValidValues
import TableQuery.Proofs.ValueIndependence
import TableQuery.Proofs.WireFaults
import TableQuery.Proofs.WireForms
import TableQuery.Proofs.WireRoundTrip
import TableQuery.Proofs.WriteRequests
import TableQuery.Query.Arguments
import TableQuery.Query.Basic
import TableQuery.Query.Condition
import TableQuery.Query.Error
import TableQuery.Query.Name
import TableQuery.Query.Operator
import TableQuery.Query.Paging
import TableQuery.Query.Parameters
import TableQuery.Selection.Basic
import TableQuery.Selection.Deletion
import TableQuery.Selection.Reading
import TableQuery.Service
import TableQuery.Settings
import TableQuery.Settings.Sources
import TableQuery.Sql.Compilation
import TableQuery.Sql.Dialect
import TableQuery.Sql.Predicate
import TableQuery.Sql.Rendering
import TableQuery.Sql.Select
import TableQuery.Store.Basic
import TableQuery.Store.Script
import TableQuery.Table
import TableQuery.Text.Blank
import TableQuery.Text.Case
import TableQuery.Text.CaseTable
import TableQuery.Text.DigitTable
import TableQuery.Text.Encoding
import TableQuery.Text.Pattern
import TableQuery.Text.Pieces
import TableQuery.Text.Printable
import TableQuery.Text.Quoted
import TableQuery.Text.Ranges
import TableQuery.Text.WordChar
import TableQuery.Value.Basic
import TableQuery.Value.Display
import TableQuery.Value.Key
import TableQuery.Value.Numeric
import TableQuery.Value.Same
import TableQuery.Value.Shape
import TableQuery.Value.Storage
import TableQuery.Value.Tagged
import TableQuery.Writing.Basic
import TableQuery.Writing.ColumnPolicy
import TableQuery.Writing.Creation
import TableQuery.Writing.Uniqueness
import TableQuery.Writing.Update
