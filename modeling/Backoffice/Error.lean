import Backoffice.Filter.Operator
import Backoffice.Text.Numeral

/-!
# Errors

Everything that can go wrong with a request, by its cause.  `Error.message?` tells
what happened, `Error.publicMessage?` the part of it that a client may see, and
`Error.status?` the HTTP status that goes with it.

The storage's own words and the faults of the registry stay out of the public
message.  Only a timeout is worth another try of the same request.

A request that reckons with a day off the calendar stops there.  It has no answer at
all, so this cause has neither words nor a status.
-/

namespace Backoffice

open Text (showNat)

/-! ## Causes -/

/-- What is wrong with the parameters of a request. -/
inductive RequestFault where
  /-- A field path goes through an association with many records. -/
  | hasManyPath (collection association : String)
  /-- Going back a number of hours leaves the calendar. -/
  | hoursOutOfRange (hours : Nat)
  /-- The hours of a condition leave the calendar. -/
  | conditionOutOfRange (raw : String)
  /-- The search text has too many bytes. -/
  | searchTooLong (limit : Nat)
  /-- Records have no order by a field. -/
  | unsortable (type : SemanticType) (path : String)
  /-- A page number or page size of zero. -/
  | zeroPage (number size : Nat)
  /-- The records before a page are too many to count. -/
  | pageOutOfRange (number : Nat)
  /-- A collection without a single key column takes part in a join. -/
  | keyNotSingle (collection : String)
  /-- Records are asked for through an association to the owner. -/
  | notHasMany (collection association : String)
  /-- A record id has the wrong number of parts. -/
  | recordIdParts (id : String) (keys : Nat) (collection : String)
  /-- A request for one kind of statistic where another is expected. -/
  | statKind (expected found : String)
  /-- A statistic lacks a parameter. -/
  | statMissing (parameter : String)
  /-- A statistic groups by a field without order. -/
  | ungroupable (type : SemanticType) (path : String)
  /-- A statistic sums a field that is no number. -/
  | unsummable (type : SemanticType) (path : String)
  /-- A statistic over time of a field that is no time. -/
  | unbucketable (type : SemanticType) (path : String)
  /-- A fault in the words of the host. -/
  | told (message : String)
deriving DecidableEq, Repr

/-- What is wrong with the declarations of a registry. -/
inductive RegistryFault where
  /-- Settings for a column that is not there. -/
  | undeclaredColumn (collection field : String)
  /-- A collection without key columns. -/
  | noPrimaryKey (collection : String)
  /-- A search field that is no field. -/
  | searchFieldMissing (collection field : String)
  /-- A search field that no search looks at. -/
  | searchFieldType (collection field : String) (type : SemanticType)
  /-- Two collections of one name. -/
  | declaredTwice (collection : String)
  /-- An association to a collection that is not there. -/
  | targetMissing (collection association target : String)
  /-- An association that refers to more than one key column. -/
  | compositeReference (collection association referenced : String)
  /-- A foreign key that is no field. -/
  | foreignKeyMissing (collection association owner column : String)
  /-- A foreign key of more than one column. -/
  | compositeForeignKey (association : String)
  /-- A fault in the words of the host. -/
  | told (message : String)
deriving DecidableEq, Repr

/-- What is wrong with an answer of the storage. -/
inductive StorageFault where
  /-- The storage tells of a failure. -/
  | reported (message : String)
  /-- A column is missing or does not hold what it should. -/
  | unreadable (column : String)
deriving DecidableEq, Repr

/-- Why a request has no answer. -/
inductive Error where
  /-- A column type without semantic type. -/
  | unsupportedFieldType (collection field native : String)
  /-- An operator that cannot be asked of the field's type. -/
  | unsupportedOperator (field raw : String) (operator : Operator) (type : SemanticType)
  /-- A value that is none of the field's type. -/
  | typeMismatch (field raw : String) (expected : SemanticType)
  /-- A field path through more than one association. -/
  | unsupportedDepth (path : String)
  /-- No time zone has this name. -/
  | unknownTimezone (name : String)
  /-- No collection has this name. -/
  | unknownCollection (collection : String)
  /-- No field of the collection has this name. -/
  | unknownField (collection field : String)
  /-- No association of the collection has this name. -/
  | unknownAssociation (collection association : String)
  /-- The parameters of the request make no sense. -/
  | request (fault : RequestFault)
  /-- The declarations of the collections make no sense. -/
  | registry (fault : RegistryFault)
  /-- The storage did not answer in time. -/
  | timeout (micros : Nat)
  /-- The storage failed, or its answer cannot be read. -/
  | storage (fault : StorageFault)
  /-- A day is off the calendar where it is taken to be in it.  The request stops. -/
  | stopped
deriving DecidableEq, Repr

/-- A value that a request cannot go on without. -/
def Error.orStop {α : Type} : Option α → Except Error α
  | some value => .ok value
  | none => .error .stopped

/-! ## Words -/

/-- What is wrong, in words. -/
def RequestFault.message : RequestFault → String
  | hasManyPath collection association =>
      s!"Association '{association}' of '{collection}' is has-many " ++
        "and cannot appear in a field path"
  | hoursOutOfRange hours => s!"Relative offset of {showNat hours} hours is out of range"
  | conditionOutOfRange raw => s!"Relative offset in '{raw}' is out of range"
  | searchTooLong limit => s!"Search text is longer than {showNat limit} characters"
  | unsortable type path => s!"Cannot sort on {type.name} field '{path}'"
  | zeroPage number size =>
      s!"Page number and size must be at least 1 (got number {showNat number}, size {showNat size})"
  | pageOutOfRange number => s!"Page {showNat number} is out of range"
  | keyNotSingle collection =>
      s!"Collection '{collection}' has a composite key and cannot be joined"
  | notHasMany collection association =>
      s!"Association '{association}' of '{collection}' is not a has-many association"
  | recordIdParts id keys collection =>
      s!"Record id '{id}' does not match the {showNat keys} key fields of '{collection}'"
  | statKind expected found => s!"Expected a {expected} stat request, got {found}"
  | statMissing parameter => s!"Stat request is missing '{parameter}'"
  | ungroupable type path => s!"Cannot group by {type.name} field '{path}'"
  | unsummable type path => s!"Cannot sum {type.name} field '{path}'"
  | unbucketable type path => s!"Cannot bucket {type.name} field '{path}' by time"
  | told message => message

/-- What is wrong, in words. -/
def RegistryFault.message : RegistryFault → String
  | undeclaredColumn collection field =>
      s!"collection '{collection}' configures undeclared column '{field}'"
  | noPrimaryKey collection => s!"collection '{collection}' has no primary key"
  | searchFieldMissing collection field =>
      s!"search field '{field}' is not a supported field of '{collection}'"
  | searchFieldType collection field type =>
      s!"search field '{collection}.{field}' has type {type.name} which cannot be searched"
  | declaredTwice collection => s!"collection '{collection}' is declared twice"
  | targetMissing collection association target =>
      s!"association '{collection}.{association}' targets unknown collection '{target}'"
  | compositeReference collection association referenced =>
      s!"association '{collection}.{association}' references composite key of '{referenced}'"
  | foreignKeyMissing collection association owner column =>
      s!"association '{collection}.{association}' uses unknown foreign key '{owner}.{column}'"
  | compositeForeignKey association =>
      s!"association '{association}' uses a composite foreign key"
  | told message => message

/-- What is wrong, in words. -/
def StorageFault.message : StorageFault → String
  | reported message => s!"Custom Error: {message}"
  | unreadable column => s!"Column '{column}' cannot be read"

namespace Error

/-- What a client may see. -/
def publicMessage? : Error → Option String
  | unsupportedFieldType collection field native =>
      some s!"Field '{collection}.{field}' has unsupported type {native} and cannot be queried"
  | unsupportedOperator field raw operator type =>
      some <| s!"Operator '{operator.label}' is not supported on {type.name} field '{field}' " ++
        s!"(condition '{raw}')"
  | typeMismatch field raw expected =>
      some s!"Value '{raw}' for field '{field}' is not a valid {expected.name}"
  | unsupportedDepth path => some s!"Field path '{path}' goes deeper than one association"
  | unknownTimezone name => some s!"Unknown timezone '{name}'"
  | unknownCollection collection => some s!"Collection '{collection}' not found"
  | unknownField collection field => some s!"Collection '{collection}' has no field '{field}'"
  | unknownAssociation collection association =>
      some s!"Collection '{collection}' has no association '{association}'"
  | request fault => some fault.message
  | registry _ => some "Collection registry is misconfigured"
  | timeout micros => some s!"Query did not complete within {showNat (micros / 1000)}ms"
  | storage _ => some "A database error occurred"
  | stopped => none

/-- What happened. -/
def message? : Error → Option String
  | registry fault => some s!"invalid registry: {fault.message}"
  | storage fault => some s!"database error: {fault.message}"
  | error => error.publicMessage?

/-- The HTTP status. -/
def status? : Error → Option Nat
  | unsupportedFieldType .. | unsupportedOperator .. | typeMismatch .. | unsupportedDepth .. =>
      some 422
  | unknownTimezone .. | unknownField .. | unknownAssociation .. | request .. => some 400
  | unknownCollection .. => some 404
  | timeout .. => some 504
  | registry .. | storage .. => some 500
  | stopped => none

/-- Whether the same request may succeed on another try. -/
def isRetryable : Error → Bool
  | timeout .. => true
  | _ => false

/-- The fault that lies behind an error. -/
def source? : Error → Option StorageFault
  | storage fault => some fault
  | _ => none

end Error

end Backoffice
