import Backoffice.Schema.Column

/-!
# Fields

A `Field` is what a client is told of a column: its semantic type, whether a
value is required, the default value, and the rules a value has to meet.

* A column of an unsupported type is no field.
* A default is shown when it is a fixed value other than null and the column is
  not part of the key.  On a day, a point of time or a UUID an object stands for
  a computed default.
* A value is required when null is not allowed and neither the database nor a
  computed default supplies one.
* A column whose value is supplied that way has no rules.
-/

namespace Backoffice

/-- Where the value of a field comes from when a record is written without one. -/
inductive FieldDefault where
  /-- It is always the same and shown to clients. -/
  | fixed (value : Json)
  /-- The database computes it. -/
  | computed
  | none

/-- Whether the database computes the default. -/
def FieldDefault.isComputed : FieldDefault → Bool
  | computed => true
  | _ => false

/-- The fixed default. -/
def FieldDefault.fixed? : FieldDefault → Option Json
  | fixed value => some value
  | _ => Option.none

/-- What a rule asks of a value. -/
inductive RuleKind where
  | isPresent
  | isGreaterThan
  | isLessThan
  | isBefore
  | isAfter
  | isLongerThan
  | isShorterThan
  | contains
  | isLike
deriving DecidableEq, Repr

/-- The words for a rule. -/
def RuleKind.label : RuleKind → String
  | isPresent => "is present"
  | isGreaterThan => "is greater than"
  | isLessThan => "is less than"
  | isBefore => "is before"
  | isAfter => "is after"
  | isLongerThan => "is longer than"
  | isShorterThan => "is shorter than"
  | contains => "contains"
  | isLike => "is like"

/-- A rule that the values of a field have to meet. -/
structure Rule where
  /-- What it asks. -/
  kind : RuleKind
  /-- What it compares a value with. -/
  value : Option Json := none
  /-- The words shown when it fails. -/
  message : Option String := none

/-- A field of a collection. -/
structure Field where
  /-- The name clients use. -/
  name : String
  /-- The name in the database. -/
  column : String
  /-- The semantic type. -/
  type : SemanticType
  /-- Whether a value is required. -/
  isRequired : Bool
  /-- Whether the field belongs to the primary key. -/
  isPrimaryKey : Bool
  /-- The values of an enum field. -/
  enumValues : Option (List String)
  default : FieldDefault
  rules : List Rule

/-! ## Fields of columns -/

namespace Column

/-- Whether an object as default of a type stands for a computed one. -/
def objectIsComputed (type : SemanticType) : Bool := type.isTemporal || type = .uuid

/-- The default of the field of a column. -/
def fieldDefault (c : Column) : FieldDefault :=
  match c.default with
  | none | some (.literal .null) => .none
  | some (.function _) => .computed
  | some (.literal value) =>
      if value.isObject && objectIsComputed c.type.semantic then .computed
      else if c.primaryKey then .none
      else .fixed value

/-- The rule of a constraint with one argument. -/
def ruleOf {α : Type} (kind : RuleKind) (toJson : α → Json) (constraint : Option (Constraint α)) :
    List Rule :=
  match constraint with
  | none => []
  | some c => [⟨kind, some (toJson c.argument), c.message⟩]

/-- The rules of a bound on the length. -/
def lengthRules : Option (Constraint LengthBound) → List Rule
  | none => []
  | some ⟨.least least, message⟩ => [⟨.isLongerThan, some (.nat least), message⟩]
  | some ⟨.between least most, message⟩ =>
      [⟨.isLongerThan, some (.nat least), message⟩, ⟨.isShorterThan, some (.nat most), message⟩]

/-- The rule of a pattern.  A choice of several patterns has none. -/
def patternRules : Option (Constraint Pattern) → List Rule
  | some ⟨.single expression, message⟩ => [⟨.isLike, some (.text expression), message⟩]
  | _ => []

/-- The rules of the constraints, in a fixed order. -/
def constraintRules (c : Constraints) : List Rule :=
  ruleOf .isGreaterThan id c.min ++ ruleOf .isLessThan id c.max ++ ruleOf .isBefore id c.isBefore ++
    ruleOf .isAfter id c.isAfter ++ lengthRules c.length ++ ruleOf .contains .text c.contains ++
    patternRules c.pattern

/-- The rules of a column whose value the client supplies. -/
def rules (c : Column) : List Rule :=
  (if c.allowNull then [] else [⟨.isPresent, none, none⟩]) ++ constraintRules c.constraints

/-- Whether the value of a column is supplied when a record has none. -/
def isSupplied (c : Column) : Bool := c.autoGenerated || c.fieldDefault.isComputed

/-- The field of a column with a semantic type. -/
def field? (c : Column) : Option Field :=
  if c.type.semantic = .unsupported then none
  else some {
    name := c.field
    column := c.column
    type := c.type.semantic
    isRequired := !c.allowNull && !c.isSupplied
    isPrimaryKey := c.primaryKey
    enumValues := c.enumValues?
    default := c.fieldDefault
    rules := if c.isSupplied then [] else c.rules }

end Column

end Backoffice
