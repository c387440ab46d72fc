import Backoffice.Json.Reading
import Backoffice.Listing.Params
import Backoffice.Statistics.Request

/-!
# Request documents

How settings, list requests and statistics requests are read from JSON, and how
filter specifications and pages are written back.

* A filter value is a text and a group is an object of texts.
* Whether a search is extended is a boolean, a whole number other than zero, or
  the text `1` or `true` with any blanks around it.
* Page numbers and sizes are whole numbers or texts of whole numbers.
* A list request is an object; the members of its filter specification stand among
  its own.  There a word may also be the name of an empty object.
-/

namespace Backoffice

open Json (Reader readText readBool readWord readWordOrText readOptional readList readMap
  readWordOf readRecord readOr readGiven)

/-! ## Words -/

/-- The words for the ways to join entries. -/
def Combinator.choices : List (String × Combinator) := [("and", .and), ("or", .or)]

/-- The words for the kinds of statistics. -/
def StatKind.choices : List (String × StatKind) := [("Pie", .pie), ("Line", .line)]

/-- The words for the aggregates. -/
def Aggregate.choices : List (String × Aggregate) := [("Count", .count), ("Sum", .sum)]

/-- The words for the lengths of periods. -/
def TimeRange.choices : List (String × TimeRange) :=
  [("Day", .day), ("Week", .week), ("Month", .month), ("Year", .year)]

/-- A word, where the only member of an object has to be `null`. -/
def Json.readPlainWord {α : Type} (choices : List (String × α)) : Reader α :=
  readWordOf choices Json.isNull

/-- A word, where the only member of an object may also be an empty object. -/
def Json.readNestedWord {α : Type} (choices : List (String × α)) : Reader α :=
  readWordOf choices fun
    | .null | .members [] => true
    | _ => false

/-! ## Filters -/

/-- A filter value or a group. -/
def FilterEntry.ofJson? : Reader FilterEntry
  | .text raw => some (.plain raw)
  | value => (readMap readText value).map .group

/-- Whether a search is extended. -/
def FilterSpec.readExtended : Reader Bool
  | .bool b => some b
  | .int n => if Text.isInt64 n then some (n ≠ 0) else none
  | .text s => some (Text.trimString s = "1" || Text.trimString s = "true")
  | _ => none

/-- A filter specification from the values of its members. -/
def FilterSpec.ofMembers? (readCombinator : Reader Combinator) :
    List (Option Json) → Option FilterSpec
  | [entries, combinator, search, extended] => do
      let entries ← readOr .empty (readMap FilterEntry.ofJson?) entries
      let combinator ← readOr .and readCombinator combinator
      let search ← readOr none (readOptional readText) search
      let extended ← readOr false FilterSpec.readExtended extended
      return { entries, combinator, search, extended }
  | _ => none

/-- The members of a filter specification. -/
def FilterSpec.memberNames : List String := ["filter", "filterType", "search", "searchExtended"]

/-- A filter specification. -/
def FilterSpec.ofJson? (document : Json) : Option FilterSpec := do
  let values ← readRecord FilterSpec.memberNames document
  FilterSpec.ofMembers? (Json.readPlainWord Combinator.choices) values

/-- The document of a filter value or a group. -/
def FilterEntry.toJson : FilterEntry → Json
  | plain raw => .text raw
  | group members => .ofMap (members.mapValues .text)

/-- The word for a way to join entries. -/
def Combinator.word : Combinator → String
  | and => "and"
  | or => "or"

/-- The document of a filter specification. -/
def FilterSpec.toJson (s : FilterSpec) : Json :=
  .object
    [("filter", .ofMap (s.entries.mapValues FilterEntry.toJson)),
     ("filterType", .text s.combinator.word),
     ("search", Json.orNull .text s.search),
     ("searchExtended", .bool s.extended)]

/-! ## Lists -/

/-- The page a request asks for. -/
def PageParams.ofJson? (document : Json) : Option PageParams := do
  let values ← readRecord ["number", "size"] document
  match values with
  | [number, size] =>
      let number ← readOr none (readOptional readWordOrText) number
      let size ← readOr none (readOptional readWordOrText) size
      return { number, size }
  | _ => none

/-- The document of a page. -/
def PageParams.toJson (p : PageParams) : Json :=
  .object [("number", Json.orNull .nat p.number), ("size", Json.orNull .nat p.size)]

/-- A list request. -/
def ListParams.ofJson? (document : Json) : Option ListParams :=
  match document with
  | .members entries => do
      let given := fun name => KeyMap.findIn name entries
      let fields ← readOr .empty (readMap readText) (given "fields")
      let filters ← FilterSpec.ofMembers? (Json.readNestedWord Combinator.choices)
        (FilterSpec.memberNames.map given)
      let sort ← readOr none (readOptional readText) (given "sort")
      let page ← readOr {} PageParams.ofJson? (given "page")
      let timezone ← readOr none (readOptional readText) (given "timezone")
      return { fields, filters, sort, page, timezone }
  | _ => none

/-- Settings. -/
def Settings.ofJson? (document : Json) : Option Settings := do
  let values ← readRecord
    ["default_page_size", "max_page_size", "request_timeout", "case_sensitive_matching"] document
  match values with
  | [pageSize, maxPageSize, timeout, caseSensitive] =>
      let usual : Settings := {}
      let defaultPageSize ← readOr usual.defaultPageSize readWord pageSize
      let maxPageSize ← readOr usual.maxPageSize (readOptional readWord) maxPageSize
      let requestTimeout ← readOr usual.requestTimeout (readOptional readWord) timeout
      let caseSensitive ← readOr usual.caseSensitive readBool caseSensitive
      return { defaultPageSize, maxPageSize, requestTimeout, caseSensitive }
  | _ => none

/-! ## Statistics -/

/-- A filter of a statistics request. -/
def StatFilter.ofJson? (document : Json) : Option StatFilter := do
  let values ← readRecord ["field", "value"] document
  match values with
  | [field, value] =>
      let field ← readGiven readText field
      let value ← readGiven readText value
      return { field, value }
  | _ => none

/-- A statistics request. -/
def StatRequest.ofJson? (document : Json) : Option StatRequest := do
  let values ← readRecord
    ["collection", "type", "group_by_field", "group_by_date_field", "aggregate", "aggregate_field",
     "time_range", "filters", "filterType", "timezone"] document
  match values with
  | [collection, kind, groupField, dateField, aggregate, aggregateField, timeRange, filters,
     combinator, timezone] =>
      let optionalText := readOr none (readOptional readText)
      let collection ← readGiven readText collection
      let kind ← readGiven (Json.readPlainWord StatKind.choices) kind
      let groupField ← optionalText groupField
      let dateField ← optionalText dateField
      let aggregate ← readOr .count (Json.readPlainWord Aggregate.choices) aggregate
      let aggregateField ← optionalText aggregateField
      let timeRange ← readOr none (readOptional (Json.readPlainWord TimeRange.choices)) timeRange
      let filters ← readOr [] (readList StatFilter.ofJson?) filters
      let combinator ← readOr .and (Json.readPlainWord Combinator.choices) combinator
      let timezone ← optionalText timezone
      return { collection, kind, groupField, dateField, aggregate, aggregateField, timeRange,
               filters, combinator, timezone }
  | _ => none

end Backoffice
