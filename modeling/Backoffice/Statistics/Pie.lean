import Backoffice.Number.Single
import Backoffice.Statistics.Base

/-!
# Pies

A pie has one entry for every value of a field, with the greatest figures first.
Records without a value make a group of their own.  The value that the records of a
group have in common is given as a table keeps it, a truth value as such and a
double in single precision.
-/

namespace Backoffice

/-- One entry of a pie. -/
structure PieEntry where
  /-- The value of the field. -/
  key : Json
  /-- The figure. -/
  value : Json

/-- The document of an entry. -/
def PieEntry.toJson (e : PieEntry) : Json := .object [("key", e.key), ("value", e.value)]

namespace Pie

open StatQuery (keyAlias valueAlias)

/-- The field that a pie groups by. -/
def groupField (ctx : Context) (r : StatRequest) : Except Error ResolvedField := do
  let path ← StatRequest.required "group_by_field" r.groupField
  let field ← ctx.resolve path
  if field.type.isSortable then return field
  else .error (.request (.ungroupable field.type path))

/-- The statement of a pie. -/
def statement [ZoneDatabase] (q : StatQuery) (dialect : Sql.Dialect) (now : Instant) :
    Except Error Sql.Select := do
  let ctx ← q.context dialect now
  let group ← groupField ctx q.request
  let summed ← StatQuery.summedField ctx q.request
  let base ← StatQuery.baseSelect ctx q.request (group :: summed.toList)
  return { base with
    outputs := [(.column group.ref, keyAlias), (StatQuery.figure summed, valueAlias)]
    groups := [.column group.ref]
    order := [(.named valueAlias, .descending)] }

/-- The JSON of a kept value. -/
def keyOfStored : StoredValue → Json
  | .integer n => .int n
  | .real x => .ofDouble x.toSingle
  | .text s => .text s
  | .day d => .text d.toString

/-- What the records of a group have in common. -/
def keyOf : Cell → Json
  | .bool value => .orNull Json.bool value
  | cell => .orNull keyOfStored cell.stored

/-- The entry of a row. -/
def entry (row : Row) : Except Error PieEntry :=
  (row.figure valueAlias).map fun value => ⟨.orNull keyOf (row.find? keyAlias), value⟩

/-- What a pie does with the storage. -/
def session [ZoneDatabase] (q : StatQuery) (dialect : Sql.Dialect) (now : Instant) :
    Session (List PieEntry) :=
  .ofCompiled (statement q dialect now) fun statement =>
    .query statement fun rows => rows.mapM entry

end Pie

end Backoffice
