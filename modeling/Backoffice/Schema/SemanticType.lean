/-!
# Semantic types

The kind of a field as a user sees it, apart from the types of any database.
-/

namespace Backoffice

/-- The kind of a field. -/
inductive SemanticType where
  | number
  | string
  | boolean
  /-- A point of time. -/
  | date
  /-- A calendar day. -/
  | dateonly
  | enum
  | json
  | uuid
  /-- A column type without a kind of its own.  No field has it. -/
  | unsupported
deriving DecidableEq, Repr, Inhabited

namespace SemanticType

/-- Every semantic type. -/
def all : List SemanticType :=
  [number, string, boolean, date, dateonly, enum, json, uuid, unsupported]

/-- The name. -/
def name : SemanticType → String
  | number => "Number"
  | string => "String"
  | boolean => "Boolean"
  | date => "Date"
  | dateonly => "Dateonly"
  | enum => "Enum"
  | json => "Json"
  | uuid => "Uuid"
  | unsupported => "Unsupported"

/-- The type with a name. -/
def ofName? (text : String) : Option SemanticType := all.find? (·.name = text)

/-- Whether values can be compared by `<` and `>`. -/
def isOrdered : SemanticType → Bool
  | number | date | dateonly => true
  | _ => false

/-- Whether values are days or points of time. -/
def isTemporal : SemanticType → Bool
  | date | dateonly => true
  | _ => false

/-- Whether a search may look at a field of this type. -/
def isSearchable : SemanticType → Bool
  | string | enum | uuid | number => true
  | _ => false

/-- Whether records can be ordered and grouped by a field of this type. -/
def isSortable : SemanticType → Bool
  | json | unsupported => false
  | _ => true

/-- Every type is in the list of all types. -/
theorem mem_all (t : SemanticType) : t ∈ all := by cases t <;> decide

end SemanticType

end Backoffice
