import Backoffice.Filter.Specification

/-!
# Statistics requests

What a client asks of a statistic.  A pie groups the records by a field and a
line by time; either counts the records of a group or sums a field of them.
-/

namespace Backoffice

/-- The kind of a statistic. -/
inductive StatKind where
  | pie
  | line
deriving DecidableEq, Repr, Inhabited

/-- The name of a kind. -/
def StatKind.name : StatKind → String
  | pie => "Pie"
  | line => "Line"

/-- What is made of the records of a group. -/
inductive Aggregate where
  | count
  | sum
deriving DecidableEq, Repr, Inhabited

/-- The name of an aggregate. -/
def Aggregate.name : Aggregate → String
  | count => "Count"
  | sum => "Sum"

/-- The length of the periods of a line. -/
inductive TimeRange where
  | day
  | week
  | month
  | year
deriving DecidableEq, Repr, Inhabited

/-- The name of a length. -/
def TimeRange.name : TimeRange → String
  | day => "Day"
  | week => "Week"
  | month => "Month"
  | year => "Year"

/-- A filter value under the path of a field. -/
structure StatFilter where
  /-- The path. -/
  field : String
  /-- The filter value. -/
  value : String
deriving DecidableEq, Repr

/-- What a client asks of a statistic. -/
structure StatRequest where
  collection : String
  kind : StatKind
  /-- The field that a pie groups by. -/
  groupField : Option String := none
  /-- The field that a line groups by. -/
  dateField : Option String := none
  /-- What is made of the records of a group. -/
  aggregate : Aggregate := .count
  /-- The field that is summed. -/
  aggregateField : Option String := none
  /-- The length of the periods of a line. -/
  timeRange : Option TimeRange := none
  /-- The records to keep. -/
  filters : List StatFilter := []
  /-- How the filters are joined. -/
  combinator : Combinator := .and
  /-- The name of the time zone. -/
  timezone : Option String := none
deriving DecidableEq, Repr

namespace StatRequest

/-- The records to keep.  The last value of a repeated field stays. -/
def filterSpec (r : StatRequest) : FilterSpec :=
  { entries := .ofList (r.filters.map fun f => (f.field, .plain f.value))
    combinator := r.combinator }

/-- A parameter that must not be missing or empty. -/
def required (parameter : String) (value : Option String) : Except Error String :=
  match value with
  | some text => if text = "" then .error (.request (.statMissing parameter)) else .ok text
  | none => .error (.request (.statMissing parameter))

/-- The fault of a request of another kind than expected. -/
def checkKind (r : StatRequest) (expected : StatKind) : Except Error Unit :=
  if r.kind = expected then .ok ()
  else .error (.request (.statKind expected.name r.kind.name))

end StatRequest

end Backoffice
