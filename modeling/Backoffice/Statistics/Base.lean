import Backoffice.Listing.Base
import Backoffice.Statistics.Request
import Backoffice.Storage.Session

/-!
# The base of statistics

A statistic is about one collection.  Its figure is the number of records of a
group or the sum of a number field, and its figures come under the alias `value`.
-/

namespace Backoffice

/-- A statistic of a collection. -/
structure StatQuery where
  /-- The collections. -/
  registry : Registry
  collection : Collection
  /-- What the client asks for. -/
  request : StatRequest
  /-- What the host has chosen. -/
  settings : Settings

namespace StatQuery

/-- The alias of what a pie groups by. -/
def keyAlias : String := "key"

/-- The alias of the figures. -/
def valueAlias : String := "value"

/-- The alias of what a line groups by. -/
def bucketAlias : String := "bucket"

/-- The statistic a request of a kind asks for. -/
def ofRequest (kind : StatKind) (registry : Registry) (request : StatRequest)
    (settings : Settings) : Except Error StatQuery := do
  request.checkKind kind
  let collection ← registry.collection request.collection
  return { registry, collection, request, settings }

/-- The context of a statistic at an instant. -/
def context [ZoneDatabase] (q : StatQuery) (dialect : Sql.Dialect) (now : Instant) :
    Except Error Context :=
  Context.make q.registry q.collection dialect q.request.timezone now q.settings

/-- The field that is summed, if one is. -/
def summedField (ctx : Context) (r : StatRequest) : Except Error (Option ResolvedField) :=
  match r.aggregate with
  | .count => .ok none
  | .sum => do
      let path ← StatRequest.required "aggregate_field" r.aggregateField
      let field ← ctx.resolve path
      if field.type = .number then return some field
      else .error (.request (.unsummable field.type path))

/-- The figure of a group. -/
def figure (summed : Option ResolvedField) : Sql.Output :=
  match summed with
  | some field => .sum field.ref
  | none => .count

/-- The statement over the records of the request, joined for some fields. -/
def baseSelect (ctx : Context) (r : StatRequest) (fields : List ResolvedField) :
    Except Error Sql.Select := do
  let tree ← ctx.compose r.filterSpec
  ctx.baseSelect tree (fields.filterMap (·.associationName))

end StatQuery

end Backoffice
