import Backoffice.Listing.Query

/-!
# Single records

One record by its id.  The id of a record whose key has several fields is cut at
the hyphens into as many parts as there are fields; the last part keeps any
further hyphens.  Each part must be a value of its field.
-/

namespace Backoffice

/-- A record by its id. -/
structure RecordQuery where
  /-- The collections. -/
  registry : Registry
  /-- The collection of the record. -/
  collection : Collection
  /-- The id. -/
  recordId : String
  /-- What the host has chosen. -/
  settings : Settings

namespace RecordQuery

/-- The record of a collection with an id. -/
def ofCollection (registry : Registry) (collection recordId : String) (settings : Settings) :
    Except Error RecordQuery :=
  (registry.collection collection).map fun collection =>
    { registry, collection, recordId, settings }

/-- The parts of an id for a number of key fields. -/
def idParts (keys : Nat) (recordId : String) : List String :=
  (Text.piecesAtMost compositeIdSeparator (max keys 1) recordId.toList).map String.ofList

/-- That a key field equals a part of the id. -/
def keyCondition (ctx : Context) (key : Field) (part : String) : Except Error Predicate := do
  let condition ← Condition.equals key.name part key.type
  ctx.compile key.name condition

/-- That every key field equals its part of the id. -/
def keyTree (ctx : Context) (recordId : String) : Except Error (FilterTree Predicate) :=
  let keys := ctx.collection.keyFields
  let parts := idParts keys.length recordId
  if parts.length = keys.length then
    ((keys.zip parts).mapM fun pair => keyCondition ctx pair.1 pair.2).map fun leaves =>
      .all (leaves.map .leaf)
  else .error (.request (.recordIdParts recordId keys.length ctx.collection.name))

/-- The statement that gives the record. -/
def statement [ZoneDatabase] (q : RecordQuery) (dialect : Sql.Dialect) (now : Instant) :
    Except Error Sql.Select := do
  let ctx ← Context.make q.registry q.collection dialect none now q.settings
  let tree ← keyTree ctx q.recordId
  let base ← ctx.baseSelect tree []
  return { base with
    outputs := (Projection.ofCollection q.collection).outputs
    limit := some 1 }

/-- The record of the first row. -/
def record? (c : Collection) (rows : List Row) : Option Json :=
  rows.head?.map fun row => .ofMap (c.record row.toJson)

/-- What the request does with the storage. -/
def session [ZoneDatabase] (q : RecordQuery) (dialect : Sql.Dialect) (now : Instant) :
    Session (Option Json) :=
  .ofCompiled (q.statement dialect now) fun statement =>
    .query statement fun rows => .ok (record? q.collection rows)

end RecordQuery

end Backoffice
