import Backoffice.Filter.Tree
import Backoffice.Listing.Settings
import Backoffice.Sql.Select

/-!
# The base of every statement

Every statement about a collection reads its table, joins the records that the
request reaches through associations, each once and in the order of the names,
and keeps the rows that the filters match.

A record that this collection belongs to is joined by its own key; a record that
belongs to this collection is joined by the key of this one.
-/

namespace Backoffice

namespace Context

/-- The context of a request for a collection.  Without a time zone it is UTC. -/
def make [ZoneDatabase] (registry : Registry) (collection : Collection) (dialect : Sql.Dialect)
    (timezone : Option String) (now : Instant) (settings : Settings) : Except Error Context :=
  let inZone := fun zone =>
    { registry, collection, dialect, zone, now, caseSensitive := settings.caseSensitive : Context }
  match timezone with
  | none => .ok (inZone Zone.utc)
  | some name =>
      match ZoneDatabase.zone? name with
      | some zone => .ok (inZone zone)
      | none => .error (.unknownTimezone name)

/-- The columns that a record and the one an association reaches have in common. -/
def joinColumns (ctx : Context) (a : Association) (target : Collection) :
    Except Error (Sql.ColumnRef × Sql.ColumnRef) :=
  match a.kind with
  | .belongsTo =>
      target.keyColumn.map fun key =>
        (⟨ctx.collection.table, a.foreignKey⟩, ⟨a.name, key⟩)
  | .hasOne | .hasMany =>
      ctx.collection.keyColumn.map fun key =>
        (⟨a.name, a.foreignKey⟩, ⟨ctx.collection.table, key⟩)

/-- The join of the association of a name. -/
def join (ctx : Context) (name : String) : Except Error Sql.Join := do
  let association ← ctx.collection.association name
  let target ← ctx.registry.collection association.target
  let (left, right) ← ctx.joinColumns association target
  return { table := target.table, knownAs := association.name, left, right }

/-- The statement that keeps the records a tree matches, joined through the
associations of the tree and through others. -/
def baseSelect (ctx : Context) (tree : FilterTree Predicate) (others : List String) :
    Except Error Sql.Select := do
  let joins ← (sortedNames (tree.associations ++ others)).mapM ctx.join
  return { table := ctx.collection.table, joins, condition := tree.condition? }

end Context

end Backoffice
