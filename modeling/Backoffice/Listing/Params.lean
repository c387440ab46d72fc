import Backoffice.Filter.Specification
import Backoffice.Listing.Page
import Backoffice.Listing.Sort

/-!
# List requests

What a client asks of a list: which fields to give, which records to keep, their
order, the page, and the time zone of relative days.
-/

namespace Backoffice

/-- What a client asks of a list. -/
structure ListParams where
  /-- The fields to give, joined by commas, under the name of the collection or of
  an association. -/
  fields : KeyMap String := .empty
  /-- The records to keep. -/
  filters : FilterSpec := {}
  /-- The order. -/
  sort : Option String := none
  page : PageParams := {}
  /-- The name of the time zone. -/
  timezone : Option String := none
deriving DecidableEq

namespace ListParams

/-- The names in a list joined by commas, without blanks around them. -/
def splitNames (list : String) : List String :=
  let (first, others) := Text.pieces ',' list.toList
  ((first :: others).map fun name => String.ofList (Text.trim name)).filter (· ≠ "")

/-- The fields asked for under a name.  Without an answer, all of them are. -/
def fieldsFor (p : ListParams) (name : String) : Option (List String) :=
  (p.fields.find? name).map splitNames

/-- The sort order. -/
def sortOrder? (p : ListParams) : Option SortOrder := p.sort.bind SortOrder.parse

end ListParams

end Backoffice
