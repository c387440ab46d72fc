import Backoffice.Proofs.KeyMap
import Backoffice.Proofs.Schema.Keys
import Backoffice.Schema.Description

/-!
# What documents tell of columns

The document of a collection has the fields of its columns in the order in which they are
declared, and after them its associations.  A column without semantic type has no field, and is
kept by name instead (`Declaration.IsToldIn`).

The document of a field leaves out what is usual.  What it says and what it leaves out is told
here by the column itself (`Column.IsToldBy`), in two questions.

* *Does a record get a value when it is written without one?*  The database numbers the records
  by the column, or computes its default (`Column.Supplies`).  Then there is neither a
  requirement nor a rule.
* *What does the column ask of a value?*  That it is there, and what each constraint asks
  (`Column.Asks`).  The rules are these, in the order of their kinds, and each constraint adds
  its own (`Column.AsksInOrder`).

The document of a rule tells its kind, what values are compared with and the words for a failure
(`Rule.IsToldBy`).  The document of an association tells what a client needs to know of the
target: the type of its key and, for a single record, where the key is (`Association.IsToldBy`).
-/

namespace Backoffice

/-! ## Members of documents -/

/-- The value of a member of an object. -/
def Json.member? (name : String) : Json → Option Json
  | .members entries => KeyMap.findIn name entries
  | _ => none

theorem Json.member?_ofMap (m : KeyMap Json) (name : String) :
    (Json.ofMap m).member? name = m.find? name := rfl

/-- Some of the entries of a list have some of its keys. -/
theorem map_fst_filterMap_sublist {α β γ : Type} {f : α × β → Option (α × γ)}
    (keeps : ∀ entry, ∀ found ∈ f entry, found.1 = entry.1) (entries : List (α × β)) :
    ((entries.filterMap f).map Prod.fst).Sublist (entries.map Prod.fst) := by
  induction entries with
  | nil => exact .slnil
  | cons entry rest ih =>
      cases isFound : f entry with
      | none =>
          rw [List.filterMap_cons_none isFound]
          exact ih.cons _
      | some found =>
          rw [List.filterMap_cons_some isFound, List.map_cons, keeps entry found isFound]
          exact ih.cons_cons _

/-- An object of members that may be missing has each of them that is there. -/
theorem Json.member?_objectOfSome {entries : List (String × Option Json)}
    (differ : (entries.map Prod.fst).Nodup) {name : String} {value : Option Json}
    (given : (name, value) ∈ entries) : (objectOfSome entries).member? name = value := by
  rw [objectOfSome, object, member?_ofMap]
  refine Option.ext fun v => ?_
  rw [KeyMap.find?_ofList_iff_mem (differ.sublist (map_fst_filterMap_sublist ?_ entries)),
    List.mem_filterMap]
  · constructor
    · rintro ⟨⟨key, other⟩, isGiven, present⟩
      obtain ⟨w, rfl, same⟩ := Option.map_eq_some_iff.1 present
      cases same
      have only : (name, some v) = (name, value) :=
        List.inj_on_of_nodup_map differ isGiven given rfl
      exact (congrArg Prod.snd only).symm
    · rintro rfl
      exact ⟨_, given, rfl⟩
  · rintro ⟨key, other⟩ found present
    obtain ⟨_, _, rfl⟩ := Option.map_eq_some_iff.1 present
    rfl

/-- An object has no other members than those it is made of. -/
theorem Json.mem_of_member?_objectOfSome {entries : List (String × Option Json)} {name : String}
    {value : Json} (found : (objectOfSome entries).member? name = some value) :
    name ∈ entries.map Prod.fst := by
  rw [objectOfSome, object, member?_ofMap] at found
  obtain ⟨⟨key, given⟩, member, made⟩ := List.mem_filterMap.1 (KeyMap.mem_of_find?_ofList found)
  obtain ⟨_, _, same⟩ := Option.map_eq_some_iff.1 made
  cases same
  exact List.mem_map_of_mem member

/-! ## Values that are supplied -/

namespace Column

variable {c : Column}

/-- Objects as defaults of a column of this type stand for computed ones. -/
def TakesObjects (c : Column) : Prop :=
  c.type.semantic = .date ∨ c.type.semantic = .dateonly ∨ c.type.semantic = .uuid

/-- The default is computed by the database. -/
inductive IsComputed (c : Column) : Prop where
  | call (text : String) (isCall : c.default = some (.function text))
  | object (entries : List (String × Json))
      (isObject : c.default = some (.literal (.members entries))) (takes : c.TakesObjects)

/-- A record gets a value of the column when it is written without one. -/
def Supplies (c : Column) : Prop := c.autoGenerated = true ∨ c.IsComputed

/-- The default that clients are shown. -/
structure Shows (c : Column) (value : Json) : Prop where
  isDefault : c.default = some (.literal value)
  present : value ≠ .null
  notKey : c.primaryKey = false
  /-- It does not stand for a computed one. -/
  fixed : ¬ (value.isObject = true ∧ c.TakesObjects)

theorem objectIsComputed_iff : objectIsComputed c.type.semantic = true ↔ c.TakesObjects := by
  rw [TakesObjects, objectIsComputed]
  cases c.type.semantic <;> decide

theorem fieldDefault_literal {value : Json} (isDefault : c.default = some (.literal value))
    (present : value ≠ .null) :
    c.fieldDefault =
      if value.isObject && objectIsComputed c.type.semantic then .computed
      else if c.primaryKey then .none else .fixed value := by
  rw [fieldDefault, isDefault]
  cases value with
  | null => exact absurd rfl present
  | bool | int | double | text | list | members => rfl

theorem fieldDefault_cases (c : Column) :
    c.fieldDefault = .none ∨ (c.fieldDefault = .computed ∧ c.IsComputed) ∨
      ∃ value, c.fieldDefault = .fixed value ∧ c.Shows value := by
  cases isDefault : c.default with
  | none => exact .inl (by rw [fieldDefault, isDefault])
  | some source =>
      cases source with
      | function text => exact .inr (.inl ⟨by rw [fieldDefault, isDefault], .call text isDefault⟩)
      | literal value =>
          by_cases isNull : value = .null
          · subst isNull
            exact .inl (by rw [fieldDefault, isDefault])
          · rw [fieldDefault_literal isDefault isNull]
            split
            next computed =>
              obtain ⟨isObject, takes⟩ := Bool.and_eq_true_iff.1 computed
              cases value with
              | members entries =>
                  exact .inr (.inl ⟨rfl, .object entries isDefault (objectIsComputed_iff.1 takes)⟩)
              | null | bool | int | double | text | list => cases isObject
            next notComputed =>
              split
              next => exact .inl rfl
              next notKey =>
                rw [Bool.and_eq_true_iff, objectIsComputed_iff] at notComputed
                exact .inr (.inr
                  ⟨value, rfl, isDefault, isNull, Bool.eq_false_iff.2 notKey, notComputed⟩)

theorem isComputed_fieldDefault : c.fieldDefault.isComputed = true ↔ c.IsComputed := by
  constructor
  · intro computed
    rcases c.fieldDefault_cases with isNone | ⟨_, isComputed⟩ | ⟨value, isFixed, _⟩
    · rw [isNone] at computed
      cases computed
    · exact isComputed
    · rw [isFixed] at computed
      cases computed
  · rintro (⟨text, isCall⟩ | ⟨entries, isObject, takes⟩)
    · rw [fieldDefault, isCall]
      rfl
    · rw [fieldDefault_literal isObject (by simp), objectIsComputed_iff.2 takes]
      rfl

theorem fixed?_fieldDefault {value : Json} :
    c.fieldDefault.fixed? = some value ↔ c.Shows value := by
  constructor
  · intro fixed
    rcases c.fieldDefault_cases with isNone | ⟨isComputed, _⟩ | ⟨other, isFixed, shows⟩
    · rw [isNone] at fixed
      cases fixed
    · rw [isComputed] at fixed
      cases fixed
    · rw [isFixed] at fixed
      cases fixed
      exact shows
  · rintro ⟨isDefault, present, notKey, fixed⟩
    rw [← objectIsComputed_iff, ← Bool.and_eq_true_iff] at fixed
    rw [fieldDefault_literal isDefault present, if_neg fixed, notKey]
    rfl

theorem isSupplied_iff : c.isSupplied = true ↔ c.Supplies := by
  rw [isSupplied, Bool.or_eq_true_iff, isComputed_fieldDefault, Supplies]

end Column

/-! ## Rules -/

/-- The kinds of rules, in the order in which a field has them. -/
def RuleKind.inOrder : List RuleKind :=
  [.isPresent, .isGreaterThan, .isLessThan, .isBefore, .isAfter, .isLongerThan, .isShorterThan,
   .contains, .isLike]

namespace Column

/-- What a column asks of a value. -/
inductive Asks (c : Column) : Rule → Prop where
  | present (notNull : c.allowNull = false) : c.Asks ⟨.isPresent, none, none⟩
  | min {bound} (isGiven : c.constraints.min = some bound) :
      c.Asks ⟨.isGreaterThan, some bound.argument, bound.message⟩
  | max {bound} (isGiven : c.constraints.max = some bound) :
      c.Asks ⟨.isLessThan, some bound.argument, bound.message⟩
  | isBefore {bound} (isGiven : c.constraints.isBefore = some bound) :
      c.Asks ⟨.isBefore, some bound.argument, bound.message⟩
  | isAfter {bound} (isGiven : c.constraints.isAfter = some bound) :
      c.Asks ⟨.isAfter, some bound.argument, bound.message⟩
  | least {least message} (isGiven : c.constraints.length = some ⟨.least least, message⟩) :
      c.Asks ⟨.isLongerThan, some (.nat least), message⟩
  | atLeast {least most message}
      (isGiven : c.constraints.length = some ⟨.between least most, message⟩) :
      c.Asks ⟨.isLongerThan, some (.nat least), message⟩
  | atMost {least most message}
      (isGiven : c.constraints.length = some ⟨.between least most, message⟩) :
      c.Asks ⟨.isShorterThan, some (.nat most), message⟩
  | contains {part} (isGiven : c.constraints.contains = some part) :
      c.Asks ⟨.contains, some (.text part.argument), part.message⟩
  /-- A choice of several patterns asks nothing. -/
  | pattern {expression message}
      (isGiven : c.constraints.pattern = some ⟨.single expression, message⟩) :
      c.Asks ⟨.isLike, some (.text expression), message⟩

end Column

/-- Each constraint alone, in the order of their rules. -/
def Constraints.each (c : Constraints) : List Constraints :=
  [{ min := c.min }, { max := c.max }, { isBefore := c.isBefore }, { isAfter := c.isAfter },
   { length := c.length }, { contains := c.contains }, { pattern := c.pattern }]

/-- The constraints are others with one more, which there was none of. -/
def Constraints.Adds (new old alone : Constraints) : Prop :=
  ∃ before after, old.each = before ++ {} :: after ∧ new.each = before ++ alone :: after

namespace Column

section
variable {c : Column} {rule : Rule}

theorem mem_ruleOf {α : Type} {kind : RuleKind} {toJson : α → Json}
    {constraint : Option (Constraint α)} :
    rule ∈ ruleOf kind toJson constraint ↔
      ∃ bound, constraint = some bound ∧
        rule = ⟨kind, some (toJson bound.argument), bound.message⟩ := by
  cases constraint with
  | none => simp [ruleOf]
  | some bound => simp [ruleOf]

theorem mem_lengthRules {bound : Option (Constraint LengthBound)} :
    rule ∈ lengthRules bound ↔
      (∃ least message, bound = some ⟨.least least, message⟩ ∧
        rule = ⟨.isLongerThan, some (.nat least), message⟩) ∨
      ∃ least most message, bound = some ⟨.between least most, message⟩ ∧
        (rule = ⟨.isLongerThan, some (.nat least), message⟩ ∨
          rule = ⟨.isShorterThan, some (.nat most), message⟩) := by
  match bound with
  | none => simp [lengthRules]
  | some ⟨.least least, message⟩ => simp [lengthRules]
  | some ⟨.between least most, message⟩ => simp [lengthRules]

theorem mem_patternRules {pattern : Option (Constraint Pattern)} :
    rule ∈ patternRules pattern ↔ ∃ expression message,
      pattern = some ⟨.single expression, message⟩ ∧
        rule = ⟨.isLike, some (.text expression), message⟩ := by
  match pattern with
  | none => simp [patternRules]
  | some ⟨.single expression, message⟩ => simp [patternRules]
  | some ⟨.anyOf expressions, message⟩ => simp [patternRules]

/-- The rules of a column are what it asks. -/
theorem mem_rules_iff : rule ∈ c.rules ↔ c.Asks rule := by
  have present : rule ∈ (if c.allowNull then [] else [(⟨.isPresent, none, none⟩ : Rule)]) ↔
      c.allowNull = false ∧ rule = ⟨.isPresent, none, none⟩ := by
    cases c.allowNull <;> simp
  simp only [rules, constraintRules, List.mem_append, present, mem_ruleOf, mem_lengthRules,
    mem_patternRules]
  constructor
  · rintro (⟨notNull, rfl⟩ | ((((((⟨bound, isGiven, rfl⟩ | ⟨bound, isGiven, rfl⟩) |
      ⟨bound, isGiven, rfl⟩) | ⟨bound, isGiven, rfl⟩) |
      (⟨least, message, isGiven, rfl⟩ | ⟨least, most, message, isGiven, rfl | rfl⟩)) |
      ⟨part, isGiven, rfl⟩) | ⟨expression, message, isGiven, rfl⟩))
    · exact .present notNull
    · exact .min isGiven
    · exact .max isGiven
    · exact .isBefore isGiven
    · exact .isAfter isGiven
    · exact .least isGiven
    · exact .atLeast isGiven
    · exact .atMost isGiven
    · exact .contains isGiven
    · exact .pattern isGiven
  · intro asks
    cases asks with
    | present notNull => simp [notNull]
    | min isGiven | max isGiven | isBefore isGiven | isAfter isGiven | least isGiven
    | atLeast isGiven | atMost isGiven | contains isGiven | pattern isGiven => simp [isGiven]

/-- The kinds of the rules stand in a fixed order. -/
theorem kinds_sublist : (c.rules.map (·.kind)).Sublist RuleKind.inOrder := by
  have present : ((if c.allowNull then [] else [(⟨.isPresent, none, none⟩ : Rule)]).map
      (·.kind)).Sublist [.isPresent] := by
    cases c.allowNull <;> simp
  have single : ∀ {α : Type} (kind : RuleKind) (toJson : α → Json)
      (constraint : Option (Constraint α)),
      ((ruleOf kind toJson constraint).map (·.kind)).Sublist [kind] := by
    intro α kind toJson constraint
    cases constraint <;> simp [ruleOf]
  have length : ((lengthRules c.constraints.length).map (·.kind)).Sublist
      [.isLongerThan, .isShorterThan] := by
    match c.constraints.length with
    | none => simp [lengthRules]
    | some ⟨.least least, message⟩ => simp [lengthRules]
    | some ⟨.between least most, message⟩ => simp [lengthRules]
  have pattern : ((patternRules c.constraints.pattern).map (·.kind)).Sublist [.isLike] := by
    match c.constraints.pattern with
    | none => simp [patternRules]
    | some ⟨.single expression, message⟩ => simp [patternRules]
    | some ⟨.anyOf expressions, message⟩ => simp [patternRules]
  simp only [rules, constraintRules, List.map_append]
  exact present.append (((((((single _ _ _).append (single _ _ _)).append (single _ _ _)).append
    (single _ _ _)).append length).append (single _ _ _)).append pattern)

end

/-! ## Each constraint on its own -/

/-- The column with nothing asked of its values but one constraint. -/
def alone (c : Column) (constraints : Constraints) : Column :=
  { c with allowNull := true, constraints }

section
variable {c : Column}

theorem constraintRules_each (constraints : Constraints) :
    constraintRules constraints = constraints.each.flatMap constraintRules := by
  simp [constraintRules, Constraints.each, ruleOf, lengthRules, patternRules]

theorem constraintRules_empty : constraintRules {} = [] := rfl

theorem rules_alone (constraints : Constraints) :
    (c.alone constraints).rules = constraintRules constraints := rfl

/-- The rules are those of the column without constraints and then those of each constraint. -/
theorem rules_eq : c.rules = { c with constraints := {} }.rules ++
    c.constraints.each.flatMap fun constraint => (c.alone constraint).rules := by
  simp only [rules_alone, ← constraintRules_each]
  simp [rules, constraintRules, ruleOf, lengthRules, patternRules]

/-- One more constraint puts its rules among the others. -/
theorem rules_adds {new alone : Constraints} (adds : new.Adds c.constraints alone) :
    ∃ first last, c.rules = first ++ last ∧
      { c with constraints := new }.rules = first ++ (c.alone alone).rules ++ last := by
  obtain ⟨before, after, old, isNew⟩ := adds
  refine ⟨{ c with constraints := {} }.rules ++ before.flatMap constraintRules,
    after.flatMap constraintRules, ?_, ?_⟩
  · rw [rules_eq, old]
    simp [rules_alone, constraintRules_empty]
  · rw [rules_eq]
    simp [rules_alone, isNew]

end

/-- What a column asks of values, as a list of rules. -/
structure AsksInOrder (c : Column) : Prop where
  rules : ∀ rule, rule ∈ c.rules ↔ c.Asks rule
  /-- There is at most one rule of a kind, and the kinds stand in their order. -/
  kinds : (c.rules.map (·.kind)).Sublist RuleKind.inOrder
  /-- The rules are those of the column without constraints and then those of each
  constraint. -/
  joined : c.rules = { c with constraints := {} }.rules ++
    c.constraints.each.flatMap fun constraint => (c.alone constraint).rules
  /-- One more constraint puts its rules among the others. -/
  adds : ∀ new alone : Constraints, new.Adds c.constraints alone → ∃ first last,
    c.rules = first ++ last ∧
      { c with constraints := new }.rules = first ++ (c.alone alone).rules ++ last

theorem asksInOrder (c : Column) : c.AsksInOrder :=
  ⟨fun _ => mem_rules_iff, kinds_sublist, rules_eq, fun _ _ => rules_adds⟩

end Column

/-! ## Documents of rules -/

theorem RuleKind.mem_inOrder (kind : RuleKind) : kind ∈ inOrder := by
  cases kind <;> decide

theorem RuleKind.label_injective {kind other : RuleKind} (same : kind.label = other.label) :
    kind = other := by
  have differ : (inOrder.map label).Nodup := by decide
  exact List.inj_on_of_nodup_map differ kind.mem_inOrder other.mem_inOrder same

/-- What the document of a rule tells of it. -/
structure Rule.IsToldBy (rule : Rule) (document : Json) : Prop where
  /-- The words for one kind are not those for another. -/
  type : ∀ kind : RuleKind,
    document.member? "type" = some (.text kind.label) ↔ kind = rule.kind
  value : document.member? "value" = rule.value
  message : document.member? "message" = rule.message.map .text
  /-- Nothing else is told. -/
  only : ∀ name value, document.member? name = some value → name ∈ ["type", "value", "message"]

theorem Rule.isToldBy_document (rule : Rule) : rule.IsToldBy rule.document where
  type kind := by
    have told : rule.document.member? "type" = some (.text rule.kind.label) :=
      Json.member?_objectOfSome (by simp) (by simp)
    rw [told, Option.some_inj, Json.text.injEq]
    exact ⟨fun same => (RuleKind.label_injective same).symm, fun same => by rw [same]⟩
  value := Json.member?_objectOfSome (by simp) (by simp)
  message := Json.member?_objectOfSome (by simp) (by simp)
  only _ _ := Json.mem_of_member?_objectOfSome

/-! ## Documents of fields -/

theorem SemanticType.name_injective {type other : SemanticType} (same : type.name = other.name) :
    type = other := by
  have differ : (all.map name).Nodup := by decide
  exact List.inj_on_of_nodup_map differ type.mem_all other.mem_all same

namespace Column

/-- What the document of a field tells of its column. -/
structure IsToldBy (c : Column) (document : Json) : Prop where
  name : document.member? "field" = some (.text c.field)
  /-- The name of one type is not that of another. -/
  type : ∀ type : SemanticType,
    document.member? "type" = some (.text type.name) ↔ type = c.type.semantic
  stored : document.member? "columnName" =
    if c.column = c.field then none else some (.text c.column)
  key : document.member? "primaryKey" = if c.primaryKey then some (.bool true) else none
  /-- The values of an enum column, in their order. -/
  enums : ∀ value, document.member? "enums" = some value ↔
    ∃ values, c.type = .enum values ∧ value = .texts values
  required : ∀ value, document.member? "isRequired" = some value ↔
    value = .bool true ∧ c.allowNull = false ∧ c.autoGenerated = false ∧ ¬ c.IsComputed
  default : ∀ value, document.member? "defaultValue" = some value ↔ c.Shows value
  /-- A column whose value is supplied asks nothing. -/
  supplied : c.Supplies →
    document.member? "isRequired" = none ∧ document.member? "validations" = none
  /-- A column that asks nothing has no rules in its document. -/
  silent : c.rules = [] → document.member? "validations" = none
  /-- Every other column whose value is not supplied asks its rules, in their order. -/
  asked : ¬ c.Supplies → c.rules ≠ [] → ∃ documents,
    document.member? "validations" = some (.list documents) ∧
      List.Forall₂ Rule.IsToldBy c.rules documents
  /-- Nothing else is told. -/
  only : ∀ name value, document.member? name = some value → name ∈
    ["field", "type", "columnName", "primaryKey", "enums", "isRequired", "defaultValue",
     "validations"]

end Column

theorem presentIf_eq_some_iff {α : Type} {condition : Bool} {value other : α} :
    presentIf condition value = some other ↔ value = other ∧ condition = true := by
  cases condition <;> simp [presentIf]

namespace Column

variable {c : Column} {f : Field}

theorem isToldBy_document (isField : c.field? = some f) : c.IsToldBy f.document := by
  have told : ∀ name value, (name, value) ∈ _ → f.document.member? name = value :=
    fun _ _ => Json.member?_objectOfSome (by simp)
  rw [field?] at isField
  split at isField
  next => cases isField
  next =>
    cases isField
    have stored := told "columnName" (presentIf (c.column ≠ c.field) (.text c.column)) (by simp)
    have enums := told "enums" (c.enumValues?.map .texts) (by simp)
    have required := told "isRequired"
      (presentIf (!c.allowNull && !c.isSupplied) (.bool true)) (by simp)
    have rules := told "validations" (presentIf (!(if c.isSupplied then [] else c.rules).isEmpty)
      (.list ((if c.isSupplied then [] else c.rules).map Rule.document))) (by simp)
    constructor
    case name => exact told "field" _ (by simp)
    case type =>
      intro type
      rw [told "type" (some (.text c.type.semantic.name)) (by simp), Option.some_inj,
        Json.text.injEq]
      exact ⟨fun same => (SemanticType.name_injective same).symm, fun same => by rw [same]⟩
    case key => exact told "primaryKey" (presentIf c.primaryKey (.bool true)) (by simp)
    case stored =>
      rw [stored, presentIf]
      by_cases same : c.column = c.field <;> simp [same]
    case enums =>
      intro value
      rw [enums, Option.map_eq_some_iff]
      cases isEnum : c.type <;> simp [enumValues?, ColumnType.enumValues?, isEnum, eq_comm]
    case required =>
      intro value
      rw [required, presentIf_eq_some_iff, Bool.and_eq_true_iff, Bool.not_eq_true',
        Bool.not_eq_true', ← Bool.not_eq_true c.isSupplied, isSupplied_iff, Supplies, not_or,
        Bool.not_eq_true, eq_comm]
    case default =>
      intro value
      rw [told "defaultValue" c.fieldDefault.fixed? (by simp), fixed?_fieldDefault]
    case supplied =>
      intro supplies
      rw [required, rules, isSupplied_iff.2 supplies, Bool.not_true, Bool.and_false]
      exact ⟨rfl, rfl⟩
    case silent =>
      intro none
      rw [rules, none, ite_self]
      rfl
    case asked =>
      intro unsupplied asks
      rw [← isSupplied_iff, Bool.not_eq_true] at unsupplied
      refine ⟨c.rules.map Rule.document, ?_, ?_⟩
      · rw [rules, unsupplied, if_neg Bool.false_ne_true, presentIf_eq_some_iff]
        exact ⟨rfl, by simpa using asks⟩
      · rw [List.forall₂_map_right_iff, List.forall₂_same]
        exact fun rule _ => rule.isToldBy_document
    case only => exact fun _ _ => Json.mem_of_member?_objectOfSome

/-- The fields of a declaration's columns tell of those that have one, in their order. -/
theorem forall₂_isToldBy (columns : List Column) :
    List.Forall₂ IsToldBy (columns.filter (·.type.semantic ≠ .unsupported))
      ((columns.filterMap field?).map Field.document) := by
  induction columns with
  | nil => exact .nil
  | cons column rest ih =>
      cases isField : column.field? with
      | none =>
          have unsupported := field?_eq_none_iff.1 isField
          rw [List.filterMap_cons_none isField,
            List.filter_cons_of_neg (by simpa using unsupported)]
          exact ih
      | some f =>
          have supported : column.type.semantic ≠ .unsupported := by
            rw [ne_eq, ← field?_eq_none_iff, isField]
            simp
          rw [List.filterMap_cons_some isField, List.filter_cons_of_pos (by simpa using supported),
            List.map_cons]
          exact .cons (isToldBy_document isField) ih

end Column

/-! ## Documents of associations -/

namespace Registry

/-- The type that stands for the key of a collection. -/
inductive HasKeyType (r : Registry) (name : String) : SemanticType → Prop where
  /-- The type of the first field of the key. -/
  | field {target : Collection} {key : Field} {others : List Field}
      (reaches : r.collection name = .ok target) (first : target.keyFields = key :: others) :
      r.HasKeyType name key.type
  /-- A key without fields is taken for a number. -/
  | number (none : ∀ target, r.collection name = .ok target → target.keyFields = []) :
      r.HasKeyType name .number

/-- The name of the field that identifies a record of a collection. -/
inductive HasIdField (r : Registry) (name : String) : String → Prop where
  | single {target : Collection} {key : String} (reaches : r.collection name = .ok target)
      (single : target.primaryKeys = [key]) : r.HasIdField name key
  /-- A key of several columns is put together. -/
  | composite {target : Collection} (reaches : r.collection name = .ok target)
      (several : ∀ key, target.primaryKeys ≠ [key]) : r.HasIdField name "compositeId"
  | missing (none : ∀ target, r.collection name ≠ .ok target) : r.HasIdField name "id"

variable {r : Registry} {name : String}

theorem hasKeyType_keyType : r.HasKeyType name (r.keyType name) := by
  rw [keyType]
  cases found : r.collections.find? name with
  | none =>
      refine .number fun target reaches => ?_
      rw [collection_eq_ok, found] at reaches
      cases reaches
  | some target =>
      have reaches := collection_eq_ok.2 found
      rw [Option.bind_some]
      cases keys : target.keyFields with
      | nil =>
          refine .number fun other isOther => ?_
          cases reaches.symm.trans isOther
          exact keys
      | cons key others => exact .field reaches keys

theorem hasIdField_idFieldOf : r.HasIdField name (r.idFieldOf name) := by
  rw [idFieldOf]
  cases found : r.collections.find? name with
  | none =>
      refine .missing fun target reaches => ?_
      rw [collection_eq_ok, found] at reaches
      cases reaches
  | some target =>
      have reaches := collection_eq_ok.2 found
      show r.HasIdField name target.idField
      rw [Collection.idField]
      split
      next key single => exact .single reaches single
      next notSingle => exact .composite reaches notSingle

end Registry

/-- What the document of an association tells of it and of its target. -/
structure Association.IsToldBy (a : Association) (r : Registry) (document : Json) : Prop where
  name : document.member? "field" = some (.text a.name)
  /-- Many records are told as a list. -/
  type : ∃ key, r.HasKeyType a.target key ∧ document.member? "type" =
    some (if a.kind = .hasMany then .list [.text key.name] else .text key.name)
  /-- A single record is told by where its key is. -/
  references : ∃ id, r.HasIdField a.target id ∧ document.member? "references" =
    if a.kind = .hasMany then none else some (.text (a.target ++ "." ++ id))
  /-- Nothing else is told. -/
  only : ∀ name value, document.member? name = some value → name ∈ ["field", "type", "references"]

theorem Association.isToldBy_document (a : Association) (r : Registry) :
    a.IsToldBy r (r.associationDocument a) := by
  have name : (r.associationDocument a).member? "field" = some (.text a.name) :=
    Json.member?_objectOfSome (by simp) (.head _)
  have type : (r.associationDocument a).member? "type" =
      some (if a.isToOne then .text (r.keyType a.target).name
        else .list [.text (r.keyType a.target).name]) :=
    Json.member?_objectOfSome (by simp) (.tail _ (.head _))
  have references : (r.associationDocument a).member? "references" =
      presentIf a.isToOne (.text (a.target ++ "." ++ r.idFieldOf a.target)) :=
    Json.member?_objectOfSome (by simp) (.tail _ (.tail _ (.head _)))
  constructor
  case name => exact name
  case type =>
    refine ⟨_, Registry.hasKeyType_keyType, ?_⟩
    rw [type, isToOne]
    by_cases many : a.kind = .hasMany <;> simp [many]
  case references =>
    refine ⟨_, Registry.hasIdField_idFieldOf, ?_⟩
    rw [references, isToOne, presentIf]
    by_cases many : a.kind = .hasMany <;> simp [many]
  case only => exact fun _ _ => Json.mem_of_member?_objectOfSome

/-! ## Documents of collections -/

/-- What the document of a collection tells of its declaration. -/
structure Declaration.IsToldIn (d : Declaration) (r : Registry) : Prop where
  /-- There is a field for each column with a semantic type, in their order, and then one for
  each association, in theirs. -/
  fields : ∃ own reached,
    (r.document d.toCollection).member? "fields" = some (.list (own ++ reached)) ∧
      List.Forall₂ Column.IsToldBy (d.columns.filter (·.type.semantic ≠ .unsupported)) own ∧
      List.Forall₂ (Association.IsToldBy · r) d.associations reached
  /-- Every other column is kept by name. -/
  unsupported : d.toCollection.unsupported =
    (d.columns.filter (·.type.semantic = .unsupported)).map fun c => (c.field, c.type.nativeName)
  /-- Where names differ, the name of a column is that of a field or is kept, and not both. -/
  apart : (d.columns.map (·.field)).Nodup → ∀ column ∈ d.columns,
    Xor (∃ f ∈ d.toCollection.fields, f.name = column.field)
      (∃ native, (column.field, native) ∈ d.toCollection.unsupported)

namespace Declaration

variable {d : Declaration}

theorem unsupported_toCollection : d.toCollection.unsupported =
    (d.columns.filter (·.type.semantic = .unsupported)).map fun c =>
      (c.field, c.type.nativeName) := by
  rw [← List.filterMap_eq_map, List.filterMap_filter, toCollection]
  refine List.filterMap_congr fun column _ => ?_
  simp [Option.isNone_iff_eq_none, Column.field?_eq_none_iff]

theorem named_or_kept (differ : (d.columns.map (·.field)).Nodup) {column : Column}
    (member : column ∈ d.columns) :
    Xor (∃ f ∈ d.toCollection.fields, f.name = column.field)
      (∃ native, (column.field, native) ∈ d.toCollection.unsupported) := by
  -- no other column has the name, so what has it was made of this one
  have only : ∀ other ∈ d.columns, other.field = column.field → other = column :=
    fun other isOther named => List.inj_on_of_nodup_map differ isOther member named
  have isField : (∃ f ∈ d.toCollection.fields, f.name = column.field) ↔
      column.type.semantic ≠ .unsupported := by
    rw [ne_eq, ← Column.field?_eq_none_iff, ← ne_eq, Option.ne_none_iff_exists']
    constructor
    · rintro ⟨f, listed, named⟩
      obtain ⟨other, isOther, made⟩ := List.mem_filterMap.1 listed
      rw [(Column.of_field? made).1] at named
      exact ⟨f, only other isOther named ▸ made⟩
    · rintro ⟨f, made⟩
      exact ⟨f, List.mem_filterMap.2 ⟨column, member, made⟩, (Column.of_field? made).1⟩
  have isKept : (∃ native, (column.field, native) ∈ d.toCollection.unsupported) ↔
      column.type.semantic = .unsupported := by
    simp only [unsupported_toCollection, List.mem_map, List.mem_filter, decide_eq_true_eq,
      Prod.mk.injEq]
    constructor
    · rintro ⟨native, other, ⟨isOther, unsupported⟩, named, _⟩
      exact only other isOther named ▸ unsupported
    · intro unsupported
      exact ⟨_, column, ⟨member, unsupported⟩, rfl, rfl⟩
  rw [isField, isKept]
  exact xor_not_left.2 Iff.rfl

theorem member?_fields (r : Registry) (c : Collection) :
    (r.document c).member? "fields" = some (.list (r.fieldDocuments c)) :=
  Json.member?_objectOfSome (by simp) (by simp)

end Declaration

/-- The document of a collection tells the truth about every column of its declaration, and the
rules in it are what the column asks. -/
theorem documents_tell_of_columns (d : Declaration) (r : Registry) :
    d.IsToldIn r ∧ ∀ column : Column, column.AsksInOrder := by
  refine ⟨{ fields := ?fields, unsupported := ?unsupported, apart := ?apart }, Column.asksInOrder⟩
  case fields =>
    refine ⟨_, _, Declaration.member?_fields r d.toCollection,
      Column.forall₂_isToldBy d.columns, ?_⟩
    exact List.forall₂_map_right_iff.2 (List.forall₂_same.2 fun a _ => a.isToldBy_document r)
  case unsupported => exact Declaration.unsupported_toCollection
  case apart => exact fun differ _ => Declaration.named_or_kept differ

end Backoffice
