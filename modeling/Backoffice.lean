import Backoffice.Calendar.Day
import Backoffice.Calendar.Instant
import Backoffice.Calendar.OffsetTables
import Backoffice.Calendar.Reading
import Backoffice.Calendar.Writing
import Backoffice.Calendar.Zone
import Backoffice.Calendar.ZoneDatabase
import Backoffice.Calendar.ZoneNames
import Backoffice.Error
import Backoffice.Filter.Condition
import Backoffice.Filter.Context
import Backoffice.Filter.Operator
import Backoffice.Filter.Path
import Backoffice.Filter.Predicate
import Backoffice.Filter.Search
import Backoffice.Filter.Specification
import Backoffice.Filter.Tree
import Backoffice.Json
import Backoffice.Json.Parsing
import Backoffice.Json.Reading
import Backoffice.Json.Text
import Backoffice.KeyMap
import Backoffice.Listing.Base
import Backoffice.Listing.Page
import Backoffice.Listing.Params
import Backoffice.Listing.Projection
import Backoffice.Listing.Query
import Backoffice.Listing.Record
import Backoffice.Listing.Settings
import Backoffice.Listing.Single
import Backoffice.Listing.Sort
import Backoffice.Number.Double
import Backoffice.Number.Shortest
import Backoffice.Number.Single
import Backoffice.Number.Text
import Backoffice.Proofs.Calendar.Characters
import Backoffice.Proofs.Calendar.Days
import Backoffice.Proofs.Calendar.Instants
import Backoffice.Proofs.Calendar.Reading
import Backoffice.Proofs.Calendar.Slots
import Backoffice.Proofs.Calendar.Weeks
import Backoffice.Proofs.Calendar.Writing
import Backoffice.Proofs.Erasure
import Backoffice.Proofs.Filter.Addressing
import Backoffice.Proofs.Filter.Composition
import Backoffice.Proofs.Filter.Erasure
import Backoffice.Proofs.Filter.IntegerLiterals
import Backoffice.Proofs.Filter.Leaves
import Backoffice.Proofs.Filter.Legality
import Backoffice.Proofs.Filter.Lowering
import Backoffice.Proofs.Filter.Meaning
import Backoffice.Proofs.Filter.Omission
import Backoffice.Proofs.Filter.Opposites
import Backoffice.Proofs.Filter.Paths
import Backoffice.Proofs.Filter.Reach
import Backoffice.Proofs.Filter.RelativeTimes
import Backoffice.Proofs.Filter.Search
import Backoffice.Proofs.Filter.SearchLeaves
import Backoffice.Proofs.Filter.TextForms
import Backoffice.Proofs.Filter.TypedLiterals
import Backoffice.Proofs.Filter.Wildcards
import Backoffice.Proofs.KeyMap
import Backoffice.Proofs.Listing.Children
import Backoffice.Proofs.Listing.CompositeId
import Backoffice.Proofs.Listing.DescribedKeys
import Backoffice.Proofs.Listing.Joins
import Backoffice.Proofs.Listing.KeyCondition
import Backoffice.Proofs.Listing.KeyValue
import Backoffice.Proofs.Listing.Nesting
import Backoffice.Proofs.Listing.Pages
import Backoffice.Proofs.Listing.Record
import Backoffice.Proofs.Listing.Relations
import Backoffice.Proofs.Listing.Shaping
import Backoffice.Proofs.Listing.Statements
import Backoffice.Proofs.Listing.Totals
import Backoffice.Proofs.Listing.Windows
import Backoffice.Proofs.Number.Rounding
import Backoffice.Proofs.Number.Shortest
import Backoffice.Proofs.Number.Text
import Backoffice.Proofs.Number.WholeNumbers
import Backoffice.Proofs.Outcome
import Backoffice.Proofs.Sample
import Backoffice.Proofs.Schema.Acceptance
import Backoffice.Proofs.Schema.Documents
import Backoffice.Proofs.Schema.Keys
import Backoffice.Proofs.Schema.Names
import Backoffice.Proofs.Schema.Registry
import Backoffice.Proofs.Scope
import Backoffice.Proofs.Sql.Database
import Backoffice.Proofs.Sql.Erasure
import Backoffice.Proofs.Sql.Figures
import Backoffice.Proofs.Sql.Groups
import Backoffice.Proofs.Sql.Kinds
import Backoffice.Proofs.Sql.Matching
import Backoffice.Proofs.Sql.Order
import Backoffice.Proofs.Sql.Parsing
import Backoffice.Proofs.Sql.Scales
import Backoffice.Proofs.Sql.Scope
import Backoffice.Proofs.Sql.Templates
import Backoffice.Proofs.Sql.Tokens
import Backoffice.Proofs.Sql.Truth
import Backoffice.Proofs.Statistics.Labels
import Backoffice.Proofs.Statistics.Line
import Backoffice.Proofs.Statistics.Periods
import Backoffice.Proofs.Statistics.SlotTerms
import Backoffice.Proofs.Statistics.Statements
import Backoffice.Proofs.Statistics.Tallies
import Backoffice.Proofs.Statistics.Totals
import Backoffice.Proofs.Storage.Plan
import Backoffice.Proofs.Storage.Requests
import Backoffice.Proofs.Text.Bytes
import Backoffice.Proofs.Text.Numeral
import Backoffice.Proofs.Text.Pieces
import Backoffice.Proofs.Uuid
import Backoffice.Request.Documents
import Backoffice.Schema.Association
import Backoffice.Schema.Collection
import Backoffice.Schema.Column
import Backoffice.Schema.ColumnType
import Backoffice.Schema.Description
import Backoffice.Schema.Field
import Backoffice.Schema.Registry
import Backoffice.Schema.SemanticType
import Backoffice.Sql.Formula
import Backoffice.Sql.Pattern
import Backoffice.Sql.Select
import Backoffice.Sql.Slot
import Backoffice.Sql.Statement
import Backoffice.Sql.Template
import Backoffice.Sql.Value
import Backoffice.Statistics.Base
import Backoffice.Statistics.Line
import Backoffice.Statistics.Period
import Backoffice.Statistics.Pie
import Backoffice.Statistics.Request
import Backoffice.Storage.Row
import Backoffice.Storage.Session
import Backoffice.Text.Blank
import Backoffice.Text.Numeral
import Backoffice.Text.Pieces
import Backoffice.Uuid
