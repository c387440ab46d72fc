import Backoffice.Filter.Context
import Backoffice.Sql.Select
import Backoffice.Text.Blank

/-!
# Sort order

A sort order is the path of a field, with a `-` in front for falling order.
-/

namespace Backoffice

open Text (trim dropStart?)

/-- A field that records are ordered by. -/
structure SortOrder where
  /-- The path of the field. -/
  path : String
  /-- Whether the order falls. -/
  descending : Bool
deriving DecidableEq, Repr

namespace SortOrder

/-- The direction. -/
def direction (s : SortOrder) : Sql.Direction := if s.descending then .descending else .ascending

/-- The sort order a text stands for.  A text of blanks stands for none. -/
def parse (raw : String) : Option SortOrder :=
  match trim raw.toList with
  | [] => none
  | '-' :: path => some ⟨String.ofList path, true⟩
  | path => some ⟨String.ofList path, false⟩

/-- The field of a sort order.  Records have to have an order by it. -/
def resolve (s : SortOrder) (ctx : Context) : Except Error ResolvedField := do
  let field ← ctx.resolve s.path
  if field.type.isSortable then return field
  else .error (.request (.unsortable field.type s.path))

end SortOrder

end Backoffice
