import Backoffice.Listing.Base
import Backoffice.Listing.Projection
import Backoffice.Listing.Record
import Backoffice.Storage.Session

/-!
# Lists of records

A list is compiled to two statements, one that counts the records and one that
gives a page of them.  Both have the same tables and the same condition.  The
page is ordered by the sort field, if there is one, and then by the key, so that
records equal in the sort field keep their places.

The list of the records that belong to one record of another collection has one
more condition: the foreign key equals the id of that record.  Filters cannot
loosen it, since it stands beside all of them.

Nothing is sent before both statements are compiled, and the page is asked for
only after the count has come.
-/

namespace Backoffice

/-- The records that belong to one record. -/
structure ParentScope where
  /-- The name of the foreign key field. -/
  foreignKeyField : String
  recordId : String
deriving DecidableEq, Repr

/-- A list of records. -/
structure ListQuery where
  /-- The collections. -/
  registry : Registry
  /-- The collection of the records. -/
  collection : Collection
  /-- What the client asks for. -/
  params : ListParams
  /-- What the host has chosen. -/
  settings : Settings
  /-- The record they belong to. -/
  parent : Option ParentScope := none

/-- The statements of a list. -/
structure ListStatements where
  /-- Counts the records. -/
  count : Sql.Select
  /-- Gives a page of them. -/
  page : Sql.Select
deriving DecidableEq, Repr

/-- The alias of the number of records. -/
def countAlias : String := "total"

namespace ListQuery

/-! ## Which records -/

/-- The list of the records of a collection. -/
def ofCollection (registry : Registry) (collection : String) (params : ListParams)
    (settings : Settings) : Except Error ListQuery :=
  (registry.collection collection).map fun collection =>
    { registry, collection, params, settings }

/-- The list of the records that belong to a record through an association. -/
def ofParent (registry : Registry) (collection recordId association : String)
    (params : ListParams) (settings : Settings) : Except Error ListQuery := do
  let parent ← registry.collection collection
  let link ← parent.association association
  if link.kind = .belongsTo then
    .error (.request (.notHasMany collection link.name))
  else
    let target ← registry.collection link.target
    match target.fieldByColumn? link.foreignKey with
    | none => .error (.unknownField target.name link.foreignKey)
    | some foreignKey =>
        return { registry, collection := target, params, settings,
                 parent := some ⟨foreignKey.name, recordId⟩ }

/-! ## The statements -/

/-- The filters beside the condition that the records belong to a record. -/
def withParent (ctx : Context) (parent : Option ParentScope) (tree : FilterTree Predicate) :
    Except Error (FilterTree Predicate) :=
  match parent with
  | none => .ok tree
  | some scope =>
      (ctx.compileEquals scope.foreignKeyField scope.recordId).map fun belongs =>
        .all [.leaf belongs, tree]

/-- The field of the sort order, with the direction. -/
def sortKey (ctx : Context) (order : Option SortOrder) :
    Except Error (Option (ResolvedField × Sql.Direction)) :=
  match order with
  | none => .ok none
  | some order => (order.resolve ctx).map fun field => some (field, order.direction)

/-- The order of a page: the sort field and then the key. -/
def pageOrder (c : Collection) (sort : Option (ResolvedField × Sql.Direction)) :
    List (Sql.SortKey × Sql.Direction) :=
  (sort.toList.map fun (field, direction) => (.output (.column field.ref), direction)) ++
    c.keyFields.map fun key => (.output (.column ⟨c.table, key.column⟩), .ascending)

/-- The statements of a list at an instant. -/
def statements [ZoneDatabase] (q : ListQuery) (dialect : Sql.Dialect) (now : Instant) :
    Except Error ListStatements := do
  let ctx ← Context.make q.registry q.collection dialect q.params.timezone now q.settings
  let filters ← ctx.compose q.params.filters
  let tree ← withParent ctx q.parent filters
  let sort ← sortKey ctx q.params.sortOrder?
  let projections ← ctx.projections q.params
  let window ← q.params.page.window q.settings
  let joined := projections.filterMap (·.association) ++
    (sort.bind (·.1.associationName)).toList
  let base ← ctx.baseSelect tree joined
  return {
    count := { base with outputs := [(.count, countAlias)] }
    page := { base with
      outputs := projections.flatMap Projection.outputs
      order := pageOrder q.collection sort
      limit := some window.limit
      offset := some window.offset } }

/-! ## The answer -/

/-- The number of records in the first row.  Without a row there are none. -/
def total : List Row → Except Error Nat
  | [] => .ok 0
  | row :: _ => row.count countAlias

/-- The records of the rows of a page. -/
def records (c : Collection) (rows : List Row) : List Json :=
  rows.map fun row => .ofMap (c.record row.toJson)

/-- What a list does with the storage: the number of records and one page. -/
def session [ZoneDatabase] (q : ListQuery) (dialect : Sql.Dialect) (now : Instant) :
    Session (Nat × List Json) :=
  .ofCompiled (q.statements dialect now) fun statements =>
    .ask statements.count fun
      | .error e => .done (.error e)
      | .ok rows =>
          match total rows with
          | .error e => .done (.error e)
          | .ok total =>
              .query statements.page fun rows => .ok (total, records q.collection rows)

end ListQuery

end Backoffice
