import RecordQuery.Calendar.Date
import RecordQuery.Calendar.Timestamp
import RecordQuery.Calendar.TimestampReader
import RecordQuery.Cursor.Base64Url
import RecordQuery.Cursor.Entry
import RecordQuery.Cursor.Token
import RecordQuery.Declaration.FieldMark
import RecordQuery.Declaration.Fields
import RecordQuery.Declaration.Grammar
import RecordQuery.Declaration.Item
import RecordQuery.Declaration.Rule
import RecordQuery.Declaration.Token
import RecordQuery.Filter.Coercion
import RecordQuery.Filter.Compile
import RecordQuery.Filter.Grammar
import RecordQuery.Filter.Node
import RecordQuery.Filter.Scanner
import RecordQuery.Filter.Token
import RecordQuery.Json.Basic
import RecordQuery.Json.Quoted
import RecordQuery.Json.Reader
import RecordQuery.Json.Symbols
import RecordQuery.Number.Basic
import RecordQuery.Number.Binary64
import RecordQuery.Number.Decimal
import RecordQuery.Number.FloatText
import RecordQuery.Number.Rounding
import RecordQuery.Number.Shortest
import RecordQuery.Operator
import RecordQuery.Ordering.Seek
import RecordQuery.Ordering.SortOrder
import RecordQuery.Page.Paginator
import RecordQuery.Page.State
import RecordQuery.Path
import RecordQuery.Power
import RecordQuery.Predicate.Basic
import RecordQuery.Predicate.Evaluate
import RecordQuery.Query.MemoryQuery
import RecordQuery.Schema.Catalog
import RecordQuery.Schema.Error
import RecordQuery.Schema.FieldType
import RecordQuery.Schema.ResolvedPath
import RecordQuery.Settings
import RecordQuery.Text.Blank
import RecordQuery.Text.CaseTable
import RecordQuery.Text.Digits
import RecordQuery.Text.Escaped
import RecordQuery.Text.LowerCase
import RecordQuery.Text.Name
import RecordQuery.Text.NameTable
import RecordQuery.Text.PrintTable
import RecordQuery.Text.Search
import RecordQuery.Uuid
import RecordQuery.Value.Basic
import RecordQuery.Value.Read
import RecordQuery.Value.Text
import RecordQuery.Proofs.Calendar.Date
import RecordQuery.Proofs.Calendar.Timestamp
import RecordQuery.Proofs.Cursor.Base64Url
import RecordQuery.Proofs.Cursor.RoundTrip
import RecordQuery.Proofs.Filter.Correctness
import RecordQuery.Proofs.Filter.Meaning
import RecordQuery.Proofs.Json.FloatText
import RecordQuery.Proofs.Json.Reader
import RecordQuery.Proofs.Number.Rational
import RecordQuery.Proofs.Number.Rounding
import RecordQuery.Proofs.Number.Shortest
import RecordQuery.Proofs.Ordering.ExactTuple
import RecordQuery.Proofs.Ordering.KeyTuple
import RecordQuery.Proofs.Ordering.Preorder
import RecordQuery.Proofs.Ordering.Rank
import RecordQuery.Proofs.Ordering.Seek
import RecordQuery.Proofs.Ordering.Sorting
import RecordQuery.Proofs.Page.Law
import RecordQuery.Proofs.Page.Walk
import RecordQuery.Proofs.Predicate.Answers
import RecordQuery.Proofs.Predicate.Connectives
import RecordQuery.Proofs.Query.MemoryQuery
import RecordQuery.Proofs.Schema.Conformance
import RecordQuery.Proofs.Text.Digits
import RecordQuery.Proofs.Text.LowerCase
import RecordQuery.Proofs.Text.Uuid
import RecordQuery.Proofs.Cursor.Untrusted
import RecordQuery.Proofs.Page.Navigation
import RecordQuery.Proofs.Filter.Derivation
import RecordQuery.Proofs.Filter.Unambiguity
import RecordQuery.Proofs.Filter.Scanner
import RecordQuery.Proofs.Filter.Rules
import RecordQuery.Proofs.Filter.Grammar
import RecordQuery.Proofs.Predicate.Typing
import RecordQuery.Proofs.Filter.Typing
import RecordQuery.Proofs.Filter.Guards
import RecordQuery.Proofs.Filter.Lexeme
import RecordQuery.Proofs.Filter.Tiling
import RecordQuery.Proofs.Filter.Layout
import RecordQuery.Proofs.Filter.NormalForm
import RecordQuery.Proofs.Filter.Rendering
import RecordQuery.Proofs.Filter.ReadBack
import RecordQuery.Proofs.Predicate.NormalForm
import RecordQuery.Proofs.Predicate.Simplification
import RecordQuery.Proofs.Filter.CompiledForm
import RecordQuery.Proofs.Filter.Grouping
import RecordQuery.Proofs.Filter.Diagnosis
import RecordQuery.Proofs.Filter.EarliestError
import RecordQuery.Proofs.Filter.Lookahead
import RecordQuery.Proofs.Filter.Duality
import RecordQuery.Proofs.Predicate.Parameters
import RecordQuery.Proofs.Filter.Options
import RecordQuery.Proofs.Filter.Membership
import RecordQuery.Proofs.Filter.Places
import RecordQuery.Proofs.Filter.FieldTest
import RecordQuery.Proofs.Filter.Quoting
import RecordQuery.Proofs.Filter.Integers
import RecordQuery.Proofs.Number.Exact
import RecordQuery.Proofs.Cursor.Numbers
import RecordQuery.Proofs.Text.Context
import RecordQuery.Proofs.Filter.IgnoringCase
import RecordQuery.Proofs.Ordering.Transitive
import RecordQuery.Proofs.Query.Steps
import RecordQuery.Proofs.Text.Words
import RecordQuery.Proofs.Ordering.Clauses
import RecordQuery.Proofs.Ordering.KeyPath
import RecordQuery.Proofs.Text.Name
import RecordQuery.Proofs.Declaration.Notes
import RecordQuery.Proofs.Declaration.Fields
import RecordQuery.Proofs.Declaration.Marks
import RecordQuery.Proofs.Declaration.Stops
