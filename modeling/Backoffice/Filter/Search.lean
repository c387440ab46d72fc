import Backoffice.Filter.Tree

/-!
# Free-text search

A search asks of the fields that a collection searches in, and in an extended
search also of those of every record an association reaches at most one of,
whether one of them matches the text.

* A text or enum field matches when the text stands somewhere in it, whatever the
  case.
* A number or UUID field takes part only when the whole text is a number or a
  UUID, and matches when it equals it.
-/

namespace Backoffice

/-- The greatest number of bytes of a search text. -/
def searchTextLimit : Nat := 1000

namespace ResolvedField

/-- What a search text asks of the field, when the field takes part. -/
def searchOperand? (f : ResolvedField) (text : String) : Option (Operator × Operand) :=
  match f.type with
  | .string | .enum => some (.contains, .text text)
  | .uuid => (Uuid.read? text.toList).map fun u => (.equals, .uuid u)
  | .number => (Operand.number? text.toList).map fun n => (.equals, n)
  | _ => none

/-- The formula of what a search asks of the field. -/
def searchFormula (f : ResolvedField) (d : Sql.Dialect) (operand : Operand) : Sql.Formula :=
  match operand with
  | .text text => f.finds d false .anywhere text
  | operand =>
      match operand.value? with
      | some value => f.compares .equal value
      | none => .never

/-- The compiled condition of a search text on the field, when the field takes part. -/
def searchLeaf? (f : ResolvedField) (d : Sql.Dialect) (text : String) : Option Predicate :=
  (f.searchOperand? text).map fun (operator, operand) =>
    f.predicate ⟨f.path, text, operator, operand⟩ (f.searchFormula d operand)

end ResolvedField

namespace Context

/-- The paths to the fields that a search of the collection looks at. -/
def ownSearchPaths (ctx : Context) : List String :=
  ctx.collection.searchCandidates.map (·.name)

/-- The paths to the fields that a search looks at through an association. -/
def searchPathsThrough (ctx : Context) (a : Association) : Except Error (List String) :=
  match ctx.registry.collection a.target with
  | .error e => .error e
  | .ok target => .ok (target.searchCandidates.map fun field => FieldPath.through a.name field.name)

/-- The compiled conditions of a search text on some paths. -/
def searchLeaves (ctx : Context) (text : String) (paths : List String) :
    Except Error (List Predicate) := do
  let fields ← paths.mapM ctx.resolve
  return fields.filterMap (·.searchLeaf? ctx.dialect text)

/-- The compiled conditions of a search text through an association. -/
def searchLeavesThrough (ctx : Context) (text : String) (a : Association) :
    Except Error (List Predicate) := do
  let paths ← ctx.searchPathsThrough a
  ctx.searchLeaves text paths

/-- The tree of a search text.  At least one field has to match. -/
def search (ctx : Context) (text : String) (extended : Bool) :
    Except Error (FilterTree Predicate) := do
  if searchTextLimit < text.utf8ByteSize then
    .error (.request (.searchTooLong searchTextLimit))
  else
    let own ← ctx.searchLeaves text ctx.ownSearchPaths
    let reached ←
      if extended then ctx.collection.toOneAssociations.mapM (ctx.searchLeavesThrough text)
      else .ok []
    return .any ((own ++ reached.flatten).map .leaf)

end Context

end Backoffice
