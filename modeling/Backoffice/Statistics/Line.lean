import Backoffice.Statistics.Base
import Backoffice.Statistics.Period

/-!
# Lines

A line has one entry for every period in which there are records, in the order of
time.  The storage groups days as they are and points of time by the quarter of an
hour in UTC.  The slots are then added up by the local day they start on, so the
periods follow the time zone of the request in every dialect.

A slot that starts off the calendar is left out.  A local day off the calendar, or one in
a week that begins before the calendar, stops the request.
-/

namespace Backoffice

/-- One entry of a line. -/
structure LineEntry where
  /-- The label of the period. -/
  label : String
  /-- The figure. -/
  value : Json

/-- The document of an entry. -/
def LineEntry.toJson (e : LineEntry) : Json :=
  .object [("label", .text e.label), ("value", e.value)]

/-- A compiled line. -/
structure LinePlan where
  statement : Sql.Select
  /-- The type of the field that a line groups by. -/
  type : SemanticType
  /-- The time zone. -/
  zone : Zone
  /-- The length of the periods. -/
  range : TimeRange
  /-- What is made of the records of a period. -/
  aggregate : Aggregate

namespace Line

open StatQuery (bucketAlias valueAlias)

/-! ## The statement -/

/-- The field that a line groups by. -/
def dateField (ctx : Context) (r : StatRequest) : Except Error ResolvedField := do
  let path ← StatRequest.required "group_by_date_field" r.dateField
  let field ← ctx.resolve path
  if field.type.isTemporal then return field
  else .error (.request (.unbucketable field.type path))

/-- The length of the periods. -/
def timeRange (r : StatRequest) : Except Error TimeRange :=
  match r.timeRange with
  | some range => .ok range
  | none => .error (.request (.statMissing "time_range"))

/-- What the storage groups by: a day itself, or the slot of a point of time. -/
def slot (date : ResolvedField) : Sql.Output :=
  if date.type = .dateonly then .column date.ref else .slot date.ref

/-- The compiled line. -/
def plan [ZoneDatabase] (q : StatQuery) (dialect : Sql.Dialect) (now : Instant) :
    Except Error LinePlan := do
  let ctx ← q.context dialect now
  let date ← dateField ctx q.request
  let range ← timeRange q.request
  let summed ← StatQuery.summedField ctx q.request
  let base ← StatQuery.baseSelect ctx q.request (date :: summed.toList)
  let statement : Sql.Select := { base.restrict (.isNotNull date.ref) with
    outputs := [(slot date, bucketAlias), (StatQuery.figure summed, valueAlias)]
    groups := [slot date]
    order := [(.output (slot date), .ascending)] }
  return { statement, type := date.type, zone := ctx.zone, range, aggregate := q.request.aggregate }

/-! ## The answer -/

/-- The local day on which a slot starts, when the start is in the calendar. -/
def slotDay (zone : Zone) (seconds : Int) : Except Error (Option Day) :=
  let start : Instant := ⟨seconds, 0⟩
  if start.inCalendar then (Error.orStop (zone.localDay? start)).map some else .ok none

/-- The local day of a row. -/
def rowDay (p : LinePlan) (row : Row) : Except Error (Option Day) :=
  if p.type = .dateonly then row.day bucketAlias
  else do
    match ← row.integer bucketAlias with
    | none => return none
    | some seconds => slotDay p.zone seconds

/-- A figure as a count: a whole number that is not negative, else zero. -/
def countOf : Json → Nat
  | .int n => n.toNat
  | _ => 0

/-- A figure as a double, zero when there is none. -/
def doubleOf : Json → Double
  | .int n => .ofInt n
  | .double x => x
  | _ => .zero

/-- The tallies with those of a row.  A row without a day adds nothing. -/
def addRow (p : LinePlan) (tallies : Tallies) (row : Row) : Except Error Tallies := do
  match ← rowDay p row with
  | none => return tallies
  | some day =>
      let figure ← row.figure valueAlias
      let start ← Error.orStop (p.range.start? day)
      return Tallies.add start (countOf figure) (doubleOf figure) tallies

/-- The entry of a tally. -/
def entry (p : LinePlan) (t : Tally) : LineEntry :=
  { label := p.range.label t.start
    value := match p.aggregate with
      | .count => .nat t.count
      | .sum => .ofDouble t.sum }

/-- The entries of the rows. -/
def entries (p : LinePlan) (rows : List Row) : Except Error (List LineEntry) := do
  let tallies ← rows.foldlM (addRow p) []
  return tallies.map (entry p)

/-- What a line does with the storage. -/
def session [ZoneDatabase] (q : StatQuery) (dialect : Sql.Dialect) (now : Instant) :
    Session (List LineEntry) :=
  .ofCompiled (plan q dialect now) fun p => .query p.statement (entries p)

end Line

end Backoffice
