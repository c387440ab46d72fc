import Backoffice.Proofs.Filter.Legality
import Backoffice.Proofs.Filter.Reach
import Backoffice.Proofs.Outcome
import Backoffice.Proofs.Sql.Kinds

/-!
# Opposite conditions

Of two opposite conditions on a field exactly one is true of a row that has a value there.
Where the value is missing it depends on the pair: not containing a text, being blank and
being null are true of null, and a comparison and its negation are both unknown.

A pair is followed in three steps.  The formulas of two opposite conditions are opposite
(`ResolvedField.trueOf_opposite`).  A `!` before a filter value chooses the opposite
operator and leaves the operand (`Condition.parse_negated`).  So a filter value and its
negation divide the rows (`ResolvedField.matches_negated`), and `opposites_divide_rows`
says what this means for each way to write a condition.
-/

namespace Backoffice

open Sql (Comparison Engine Formula JoinedRow Subject Truth Value)

variable {V : Type}

/-! ## Kinds of operands -/

/-- The kind of the values of a type.  An enum is a text. -/
def SemanticType.kind : SemanticType → Sql.ValueKind
  | number => .number
  | string | enum => .text
  | boolean => .bool
  | date => .instant
  | dateonly => .day
  | uuid => .uuid
  | json | unsupported => .other

/-- What a type reads from a text is of its kind. -/
theorem Operand.kind_of_ofText? {type : SemanticType} {cs : List Char} {operand : Operand}
    {value : Value} (read : Operand.ofText? type cs = some operand)
    (isValue : operand.value? = some value) : value.kind = type.kind := by
  cases type with
  | number =>
      rw [ofText?, number?] at read
      split at read
      next =>
        cases read
        cases isValue
        rfl
      next =>
        obtain ⟨x, _, rfl⟩ := Option.map_eq_some_iff.1 read
        cases isValue
        rfl
  | uuid | date | dateonly =>
      obtain ⟨_, _, rfl⟩ := Option.map_eq_some_iff.1 read
      cases isValue
      rfl
  | string | enum =>
      cases read
      cases isValue
      rfl
  | boolean | json | unsupported => cases read

/-! ## How many of some conditions are true -/

/-- Some conditions on a field compile, and so many of them are true of a row. -/
def ResolvedField.TrueOf (f : ResolvedField) (ctx : Context) (e : Engine V) (row : JoinedRow V)
    (conditions : List Condition) (count : Nat) : Prop :=
  ∃ predicates, conditions.mapM (f.compile ctx) = .ok predicates ∧
    (predicates.map fun p => p.formula.truth (e.reading row)).count .yes = count

/-- The value of a field in a row is of the kind of its type, but for an enum of `postgres`,
which is a type of its own there. -/
def ResolvedField.IsTyped (f : ResolvedField) (d : Sql.Dialect) {e : Engine V} (t : e.Typing)
    (row : JoinedRow V) : Prop :=
  ∀ v, row.value f.ref = some v → t.kind v = f.type.kind ∨ (f.type = .enum ∧ d = .postgres)

/-- The operator that is true of a row with a value exactly when the first one is not. -/
def Operator.opposite? : Operator → Option Operator
  | equals => some notEquals
  | contains => some notContains
  | isNull => some isNotNull
  | isTrue => some isNotTrue
  | isFalse => some isNotFalse
  | isPresent => some isBlank
  | _ => none

theorem Operator.opposite?_of_isRelative {operator : Operator}
    (relative : operator.isRelative = true) : operator.opposite? = none := by
  cases operator with
  | hoursBefore | hoursAfter => rfl
  | _ => cases relative

/-- Whether an operator or its opposite is true of null. -/
def Operator.decidesNull (operator : Operator) : Bool :=
  operator ∈ [contains, isNull, isPresent]

namespace ResolvedField

variable {f : ResolvedField} {ctx : Context} {e : Engine V} {row : JoinedRow V}

/-- Conditions with formulas of their own compile to these. -/
theorem trueOf_of_formulas {conditions : List Condition} {formulas : List Formula}
    (compiled : List.Forall₂ (fun c formula =>
      c.operator.supports f.type = true ∧ f.formula ctx c = .ok formula) conditions formulas) :
    f.TrueOf ctx e row conditions
      ((formulas.map fun formula => formula.truth (e.reading row)).count .yes) := by
  induction compiled with
  | nil => exact ⟨[], rfl, rfl⟩
  | @cons c formula conditions formulas here _ ih =>
      obtain ⟨predicates, others, sameCount⟩ := ih
      refine ⟨f.predicate c formula :: predicates,
        mapM_eq_ok.2 (.cons ?_ (mapM_eq_ok.1 others)), ?_⟩
      · rw [compile_of_supports here.1, here.2]
        rfl
      · rw [List.map_cons, List.map_cons, List.count_cons, List.count_cons, sameCount]
        rfl

theorem trueOf_pair {c c' : Condition} (formula formula' : Formula) {count : Nat}
    (supported : c.operator.supports f.type = true)
    (supported' : c'.operator.supports f.type = true)
    (isFormula : f.formula ctx c = .ok formula) (isFormula' : f.formula ctx c' = .ok formula')
    (counted : [formula.truth (e.reading row), formula'.truth (e.reading row)].count .yes = count) :
    f.TrueOf ctx e row [c, c'] count := by
  rw [← counted]
  exact trueOf_of_formulas (.cons ⟨supported, isFormula⟩ (.cons ⟨supported', isFormula'⟩ .nil))

/-- What an equality reads of a row is of the kind of the type. -/
theorem kind_seen {t : e.Typing} (typed : f.IsTyped ctx.dialect t row) {v : V}
    (isValue : row.value f.ref = some v) :
    t.kind (e.seen (f.equalitySubject ctx.dialect) v) = f.type.kind := by
  rw [equalitySubject]
  by_cases isEnum : f.type = .enum
  · rw [if_pos isEnum, textSubject]
    -- an enum of `postgres` is of another kind, and this is what the cast is for
    split_ifs with isCast
    · rw [Engine.seen, t.kind_asText, isEnum]
      rfl
    · rcases typed v isValue with ofKind | ⟨_, postgres⟩
      · exact ofKind
      · exact absurd ⟨postgres, .inl isEnum⟩ isCast
  · rw [if_neg isEnum]
    exact (typed v isValue).resolve_right fun enum => isEnum enum.1

theorem ref_equalitySubject : (f.equalitySubject ctx.dialect).ref = f.ref := by
  rw [equalitySubject]
  split_ifs
  · exact ref_textSubject
  · rfl

end ResolvedField

theorem Operator.supports_opposite {operator other : Operator} {type : SemanticType}
    (opposite : operator.opposite? = some other) :
    other.supports type = operator.supports type := by
  cases operator <;> cases opposite <;> rfl

namespace ResolvedField

variable {f : ResolvedField} {ctx : Context} {e : Engine V} {row : JoinedRow V}
variable {t : e.Typing} (typed : f.IsTyped ctx.dialect t row) {c c' : Condition}

include typed

/-- An equality and its negation. -/
theorem trueOf_equals_notEquals (isEqual : c.operator = .equals)
    (isUnequal : c'.operator = .notEquals) (same : c'.operand = c.operand)
    (supported : c.operator.supports f.type = true)
    (supported' : c'.operator.supports f.type = true)
    (suits : c.operand.Suits .equals f.type) (declared : ¬ c.Undeclared f) :
    f.TrueOf ctx e row [c, c'] (if (row.value f.ref).isSome then 1 else 0) := by
  have declared' : ¬ c'.Undeclared f := by
    rintro ⟨isEnum, _, undeclared⟩
    rw [same] at undeclared
    exact declared ⟨isEnum, .inl isEqual, undeclared⟩
  have suits' : c'.operand.Suits .equals f.type := by rwa [same]
  obtain ⟨value, isValue, isFormula⟩ :=
    (equalityFormula_of_suits ctx.dialect (.inl isEqual) suits).2 declared
  obtain ⟨value', isValue', isFormula'⟩ :=
    (equalityFormula_of_suits ctx.dialect (.inr isUnequal) suits').2 declared'
  obtain rfl : value = value' := by
    rw [same, isValue, Option.some.injEq] at isValue'
    exact isValue'
  obtain ⟨cs, read⟩ := suits
  have counted := Sql.Formula.count_equal_notEqual t (f.equalitySubject ctx.dialect) value
    fun v isSeen => by
      rw [ref_equalitySubject] at isSeen
      rw [kind_seen typed isSeen, Operand.kind_of_ofText? read isValue]
  rw [ref_equalitySubject] at counted
  refine trueOf_pair _ _ supported supported' ?_ ?_ counted
  · rw [ResolvedField.formula, isEqual]
    exact isFormula
  · rw [ResolvedField.formula, isUnequal]
    exact isFormula'

/-- The values of a field that is no enum. -/
theorem kind_value (notEnum : f.type ≠ .enum) {v : V} (isValue : row.value f.ref = some v) :
    t.kind v = f.type.kind :=
  (typed v isValue).resolve_right fun enum => notEnum enum.1

/-- Containing a text and not containing it. -/
theorem trueOf_contains_notContains (contains : c.operator = .contains)
    (notContains : c'.operator = .notContains) {text : String} (isText : c.operand = .text text)
    (isText' : c'.operand = .text text) (onText : f.type = .string) :
    f.TrueOf ctx e row [c, c'] 1 := by
  have ofColumn : f.textSubject ctx.dialect = .column f.ref := by simp [textSubject, onText]
  refine trueOf_pair (f.finds ctx.dialect ctx.caseSensitive .anywhere text) _
    (by rw [contains, onText]; rfl) (by rw [notContains, onText]; rfl) ?_ ?_
    (Sql.Formula.count_fits_notFits t ref_textSubject fun v isValue => ?_)
  · rw [ResolvedField.formula, contains]
    simp only [textFormula, isText, contains]
    rfl
  · rw [ResolvedField.formula, notContains]
    simp only [textFormula, isText', notContains]
    rfl
  · rw [ofColumn] at isValue ⊢
    rw [Engine.seen, kind_value typed (by simp [onText]) isValue, onText]
    rfl

/-- Having a truth value and having the other one. -/
theorem trueOf_bool (b : Bool) (onBool : f.type = .boolean)
    (supported : c.operator.supports f.type = true)
    (supported' : c'.operator.supports f.type = true)
    (isFormula : f.formula ctx c = .ok (f.compares .equal (.bool b)))
    (isFormula' : f.formula ctx c' = .ok (f.compares .notEqual (.bool b))) :
    f.TrueOf ctx e row [c, c'] (if (row.value f.ref).isSome then 1 else 0) := by
  refine trueOf_pair _ _ supported supported' isFormula isFormula'
    (Sql.Formula.count_equal_notEqual t (.column f.ref) (.bool b) fun v isValue => ?_)
  rw [Engine.seen, kind_value typed (by simp [onBool]) isValue, onBool]
  rfl

/-- Neither null nor empty, and null or empty. -/
theorem trueOf_isPresent_isBlank (present : c.operator = .isPresent)
    (blank : c'.operator = .isBlank) (onText : f.type = .string) :
    f.TrueOf ctx e row [c, c'] 1 := by
  refine trueOf_pair (.and (.isNotNull f.ref) (f.compares .notEqual (.text "")))
    (.or (.isNull f.ref) (f.compares .equal (.text ""))) (by rw [present, onText]; rfl)
    (by rw [blank, onText]; rfl) (by rw [ResolvedField.formula, present])
    (by rw [ResolvedField.formula, blank])
    (Sql.Formula.count_other_given t (.column f.ref) (.text "") (fun v isValue => ?_) rfl)
  rw [Engine.seen, kind_value typed (by simp [onText]) isValue, onText]
  rfl

/-- Two opposite conditions compile.  Exactly one of them is true of a row with a value, and
of one without when the operators decide null. -/
theorem trueOf_opposite (opposite : c.operator.opposite? = some c'.operator)
    (same : c'.operand = c.operand) (supported : c.operator.supports f.type = true)
    (suits : c.operand.Suits c.operator f.type) (declared : ¬ c.Undeclared f) :
    f.TrueOf ctx e row [c, c']
      (if (row.value f.ref).isSome ∨ c.operator.decidesNull = true then 1 else 0) := by
  have supported' : c'.operator.supports f.type = true := by
    rw [Operator.supports_opposite opposite, supported]
  cases operator : c.operator with
  | equals =>
      rw [operator] at opposite suits
      have other : c'.operator = .notEquals := (Option.some.inj opposite).symm
      simpa [Operator.decidesNull] using
        trueOf_equals_notEquals typed operator other same supported supported' suits declared
  | contains =>
      rw [operator] at opposite suits supported
      have other : c'.operator = .notContains := (Option.some.inj opposite).symm
      obtain ⟨text, isText⟩ := suits
      rw [if_pos (.inr rfl)]
      exact trueOf_contains_notContains typed operator other isText (same.trans isText)
        (of_decide_eq_true supported)
  | isNull =>
      rw [operator] at opposite
      have other : c'.operator = .isNotNull := (Option.some.inj opposite).symm
      rw [if_pos (.inr rfl)]
      exact trueOf_pair (.isNull f.ref) (.isNotNull f.ref) supported supported'
        (by rw [ResolvedField.formula, operator]) (by rw [ResolvedField.formula, other])
        (Sql.Formula.count_isNull_isNotNull f.ref)
  | isTrue =>
      rw [operator] at opposite
      have other : c'.operator = .isNotTrue := (Option.some.inj opposite).symm
      have onBool : f.type = .boolean := by
        rw [operator] at supported
        exact of_decide_eq_true supported
      simpa [Operator.decidesNull] using trueOf_bool typed true onBool supported supported'
        (by rw [ResolvedField.formula, operator]) (by rw [ResolvedField.formula, other])
  | isFalse =>
      rw [operator] at opposite
      have other : c'.operator = .isNotFalse := (Option.some.inj opposite).symm
      have onBool : f.type = .boolean := by
        rw [operator] at supported
        exact of_decide_eq_true supported
      simpa [Operator.decidesNull] using trueOf_bool typed false onBool supported supported'
        (by rw [ResolvedField.formula, operator]) (by rw [ResolvedField.formula, other])
  | isPresent =>
      rw [operator] at opposite supported
      have other : c'.operator = .isBlank := (Option.some.inj opposite).symm
      rw [if_pos (.inr rfl)]
      exact trueOf_isPresent_isBlank typed operator other (of_decide_eq_true supported)
  | _ =>
      rw [operator] at opposite
      cases opposite

/-- A value is equal to an operand, less or greater. -/
theorem trueOf_equals_less_greater {less greater : Condition} (isEqual : c.operator = .equals)
    (isLess : less.operator = .lessThan) (isGreater : greater.operator = .greaterThan)
    (sameLess : less.operand = c.operand) (sameGreater : greater.operand = c.operand)
    (ordered : f.type.isOrdered = true) (suits : c.operand.Suits .equals f.type) :
    f.TrueOf ctx e row [c, less, greater] (if (row.value f.ref).isSome then 1 else 0) := by
  obtain ⟨cs, read⟩ := suits
  obtain ⟨value, isValue⟩ := Operand.value?_of_ofText? read
  have notEnum : f.type ≠ .enum := by
    intro isEnum
    rw [isEnum] at ordered
    cases ordered
  have subject : f.equalitySubject ctx.dialect = .column f.ref := if_neg notEnum
  have counted := Sql.Formula.count_equal_less_greater t (.column f.ref) value
    fun v isSeen => by
      rw [Engine.seen, kind_value typed notEnum isSeen, Operand.kind_of_ofText? read isValue]
  have isRef : (Subject.column f.ref).ref = f.ref := rfl
  rw [isRef] at counted
  rw [← counted]
  refine trueOf_of_formulas (.cons ⟨?_, ?_⟩ (.cons ⟨?_, ?_⟩ (.cons ⟨?_, ?_⟩ .nil)))
  · rw [isEqual]
    exact Operand.supports_of_ofText? read
  · rw [ResolvedField.formula, isEqual]
    refine equalityFormula_eq_ok.2 ⟨value, isValue, fun isEnum => absurd isEnum notEnum, ?_⟩
    rw [subject]
  · rw [isLess]
    exact ordered
  · rw [ResolvedField.formula, isLess]
    simp only [orderFormula, sameLess, isValue]
    rfl
  · rw [isGreater]
    exact ordered
  · rw [ResolvedField.formula, isGreater]
    simp only [orderFormula, sameGreater, isValue]
    rfl

end ResolvedField

/-! ## How opposite conditions are written -/

namespace Grammar

variable {type : SemanticType} {cs text : List Char} {operator other : Operator}

theorem classifyNegated_of_classifyWord (bare : betweenWildcards? cs = none)
    (chosen : classifyWord type cs = (operator, text))
    (opposite : operator.opposite? = some other) (notPresent : operator ≠ .isPresent) :
    classifyNegated type cs = (other, text) := by
  rw [classifyNegated, bare]
  dsimp only
  rw [classifyWord] at chosen
  split_ifs at chosen with isNull isTrue isFalse isPresent isBlank
  · cases chosen
    cases opposite
    rw [if_pos isNull]
  · cases chosen
    cases opposite
    rw [if_neg isNull, if_pos isTrue]
  · cases chosen
    cases opposite
    rw [if_neg isNull, if_neg isTrue, if_pos isFalse]
  · cases chosen
    exact absurd rfl notPresent
  · cases chosen
    cases opposite
  · rw [if_neg isNull, if_neg isTrue, if_neg isFalse]
    cases isTime : relativeTime? cs with
    | none =>
        rw [isTime] at chosen
        cases chosen
        cases opposite
        rfl
    | some parts =>
        rw [isTime, Option.getD_some] at chosen
        have relative := isRelative_of_relativeTime? isTime
        rw [chosen] at relative
        rw [Operator.opposite?_of_isRelative relative] at opposite
        cases opposite

/-- A `!` before a filter value chooses the opposite operator and leaves the operand text. -/
theorem classify_negated (chosen : classify type cs = (operator, text))
    (opposite : operator.opposite? = some other) (notPresent : operator ≠ .isPresent) :
    classify type ('!' :: cs) = (other, text) := by
  show classifyNegated type cs = _
  -- a sign chooses an operator without an opposite, and so does a wildcard that is not closed,
  -- which leaves a text between wildcards and a bare word
  unfold classify at chosen
  split at chosen
  next rest =>
    rw [classifyNegated] at chosen
    split at chosen
    next =>
      cases chosen
      cases opposite
    next =>
      split_ifs at chosen
      all_goals
        cases chosen
        cases opposite
  next =>
    cases chosen
    cases opposite
  next =>
    cases chosen
    cases opposite
  next =>
    rw [classifyPlain] at chosen
    split at chosen
    next inner _ _ between =>
      cases chosen
      cases opposite
      rw [classifyNegated, between]
    next =>
      cases chosen
      cases opposite
    next =>
      cases chosen
      cases opposite
    next bare _ _ => exact classifyNegated_of_classifyWord bare chosen opposite notPresent

/-- The text of an equality is the whole filter value. -/
theorem eq_of_equals (chosen : classify type cs = (.equals, text)) : text = cs := by
  -- only the last branch of a negation asks for another value, and it takes the whole text
  have negated := classify_negated chosen rfl (by decide)
  have whole : classify type ('!' :: cs) = classifyNegated type cs := rfl
  rw [whole, classifyNegated] at negated
  split at negated
  next => cases negated
  next =>
    split_ifs at negated
    all_goals cases negated
    rfl

/-- Opposite operators have the same operand. -/
theorem operand?_opposite (opposite : operator.opposite? = some other) :
    operand? other type text = operand? operator type text := by
  cases operator <;> cases opposite <;> rfl

end Grammar

namespace Condition

variable {path raw : String} {type : SemanticType} {c : Condition} {other : Operator}

theorem parse_contains (path text : String) :
    parse path ("*" ++ text ++ "*") .string =
      .ok ⟨path, "*" ++ text ++ "*", .contains, .text text⟩ := by
  have between : Grammar.betweenWildcards? ('*' :: (text.toList ++ ['*'])) = some text.toList :=
    Option.bind_eq_some_iff.2
      ⟨_, Text.dropStart?_eq_some_iff.2 rfl, Text.dropEnd?_eq_some_iff.2 rfl⟩
  have chosen : Grammar.classify .string ("*" ++ text ++ "*").toList =
      (.contains, text.toList) := by
    rw [String.toList_append, String.toList_append]
    show Grammar.classifyPlain .string ('*' :: (text.toList ++ ['*'])) = _
    rw [Grammar.classifyPlain, between]
  refine parse_of_classify chosen rfl ?_
  rw [Grammar.operand?, String.ofList_toList]

/-- A `!` before a filter value asks for the opposite. -/
theorem parse_negated (accepted : parse path raw type = .ok c)
    (opposite : c.operator.opposite? = some other) (notPresent : c.operator ≠ .isPresent) :
    parse path ("!" ++ raw) type = .ok ⟨path, "!" ++ raw, other, c.operand⟩ := by
  obtain ⟨supported, operand, read, rfl⟩ := parse_eq_ok.1 accepted
  have chosen : Grammar.classify type raw.toList =
      (Grammar.chosen type raw, Grammar.rest type raw) := rfl
  refine parse_of_classify ?_ (by rw [Operator.supports_opposite opposite, supported])
    (by rw [Grammar.operand?_opposite opposite, read])
  rw [String.toList_append]
  exact Grammar.classify_negated chosen opposite notPresent

/-- A `<` or `>` before the text of an equality asks for the order. -/
theorem parse_ordered (accepted : parse path raw type = .ok c) (isEqual : c.operator = .equals)
    (ordered : type.isOrdered = true) :
    parse path ("<" ++ raw) type = .ok ⟨path, "<" ++ raw, .lessThan, c.operand⟩ ∧
      parse path (">" ++ raw) type = .ok ⟨path, ">" ++ raw, .greaterThan, c.operand⟩ := by
  obtain ⟨_, operand, read, rfl⟩ := parse_eq_ok.1 accepted
  have chosen : Grammar.classify type raw.toList = (.equals, Grammar.rest type raw) :=
    Prod.ext isEqual rfl
  have whole := Grammar.eq_of_equals chosen
  have isEqual' : Grammar.chosen type raw = .equals := isEqual
  rw [isEqual', whole] at read
  constructor
  · refine parse_of_classify ?_ ordered read
    rw [String.toList_append]
    rfl
  · refine parse_of_classify ?_ ordered read
    rw [String.toList_append]
    rfl

end Condition

/-! ## Rows between opposite filter values -/

/-- Some filter values on a field are accepted and compile, and so many of them are true of a
row. -/
def ResolvedField.Matches (f : ResolvedField) (ctx : Context) (e : Engine V) (row : JoinedRow V)
    (values : List String) (count : Nat) : Prop :=
  ∃ conditions, values.mapM (fun raw => Condition.parse f.path raw f.type) = .ok conditions ∧
    f.TrueOf ctx e row conditions count

/-- How opposite conditions on a field divide the rows.  A comparison and its negation leave
out null. -/
structure ResolvedField.Divides (f : ResolvedField) (ctx : Context) (e : Engine V)
    (row : JoinedRow V) : Prop where
  contains : f.type = .string → ∀ text,
    f.Matches ctx e row ["*" ++ text ++ "*", "!*" ++ text ++ "*"] 1
  present : f.type = .string → f.Matches ctx e row ["$present", "$blank"] 1
  null : f.type ≠ .unsupported → f.Matches ctx e row ["null", "!null"] 1
  bool : f.type = .boolean → ∀ word ∈ ["true", "false"],
    f.Matches ctx e row [word, "!" ++ word] (if (row.value f.ref).isSome then 1 else 0)
  /-- Equality with any operand of the type that the field may be compared with. -/
  operand : ∀ c c' : Condition, c.operator = .equals → c'.operator = .notEquals →
    c'.operand = c.operand → c.operand.Suits .equals f.type → ¬ c.Undeclared f →
      f.TrueOf ctx e row [c, c'] (if (row.value f.ref).isSome then 1 else 0)
  /-- The same of a filter value that is read as an equality. -/
  negated : ∀ raw c, Condition.parse f.path raw f.type = .ok c → c.operator = .equals →
    ¬ c.Undeclared f →
      f.Matches ctx e row [raw, "!" ++ raw] (if (row.value f.ref).isSome then 1 else 0)
  ordered : ∀ raw c, Condition.parse f.path raw f.type = .ok c → c.operator = .equals →
    f.type.isOrdered = true →
      f.Matches ctx e row [raw, "<" ++ raw, ">" ++ raw] (if (row.value f.ref).isSome then 1 else 0)

namespace ResolvedField

variable {f : ResolvedField} {ctx : Context} {e : Engine V} {row : JoinedRow V}
variable {t : e.Typing} (typed : f.IsTyped ctx.dialect t row) {c : Condition} {raw : String}

include typed

/-- A filter value and its negation. -/
theorem matches_negated (accepted : Condition.parse f.path raw f.type = .ok c)
    (opposable : c.operator.opposite?.isSome = true) (notPresent : c.operator ≠ .isPresent)
    (declared : ¬ c.Undeclared f) :
    f.Matches ctx e row [raw, "!" ++ raw]
      (if (row.value f.ref).isSome ∨ c.operator.decidesNull = true then 1 else 0) := by
  obtain ⟨other, opposite⟩ := Option.isSome_iff_exists.1 opposable
  obtain ⟨supported, operand, read, rfl⟩ := Condition.parse_eq_ok.1 accepted
  refine ⟨_, mapM_eq_ok.2 (.cons accepted (.cons
    (Condition.parse_negated accepted opposite notPresent) .nil)), ?_⟩
  exact trueOf_opposite typed opposite rfl supported (Grammar.suits_of_operand? read) declared

/-- A filter value that is read as an equality, and the same value with `<` and `>`. -/
theorem matches_ordered (accepted : Condition.parse f.path raw f.type = .ok c)
    (isEqual : c.operator = .equals) (ordered : f.type.isOrdered = true) :
    f.Matches ctx e row [raw, "<" ++ raw, ">" ++ raw]
      (if (row.value f.ref).isSome then 1 else 0) := by
  obtain ⟨isLess, isGreater⟩ := Condition.parse_ordered accepted isEqual ordered
  refine ⟨_, mapM_eq_ok.2 (.cons accepted (.cons isLess (.cons isGreater .nil))), ?_⟩
  obtain ⟨_, operand, read, rfl⟩ := Condition.parse_eq_ok.1 accepted
  have suits := Grammar.suits_of_operand? read
  have isEqual' : Grammar.chosen f.type raw = .equals := isEqual
  rw [isEqual'] at suits
  exact trueOf_equals_less_greater typed isEqual rfl rfl rfl rfl ordered suits

/-- Containing a text and not containing it. -/
theorem matches_contains (onText : f.type = .string) (text : String) :
    f.Matches ctx e row ["*" ++ text ++ "*", "!*" ++ text ++ "*"] 1 := by
  have accepted := Condition.parse_contains f.path text
  rw [← onText] at accepted
  have negation : "!*" ++ text ++ "*" = "!" ++ ("*" ++ text ++ "*") := by
    rw [← String.append_assoc, ← String.append_assoc]
    rfl
  rw [negation]
  have divided := matches_negated typed accepted rfl nofun
    (Condition.not_undeclared_of_type (by simp [onText]))
  rwa [if_pos (.inr rfl)] at divided

/-- Being present and being blank.  The one is not written as the negation of the other. -/
theorem matches_present (onText : f.type = .string) :
    f.Matches ctx e row ["$present", "$blank"] 1 := by
  refine ⟨[⟨f.path, "$present", .isPresent, .none⟩, ⟨f.path, "$blank", .isBlank, .none⟩],
    mapM_eq_ok.2 ?_, trueOf_isPresent_isBlank typed rfl rfl onText⟩
  rw [onText]
  exact .cons rfl (.cons rfl .nil)

/-- Being null and not being null. -/
theorem matches_null (supported : f.type ≠ .unsupported) :
    f.Matches ctx e row ["null", "!null"] 1 := by
  have accepted : Condition.parse f.path "null" f.type = .ok ⟨f.path, "null", .isNull, .none⟩ :=
    Condition.parse_of_classify rfl (decide_eq_true supported) rfl
  have divided := matches_negated typed accepted rfl nofun
    (Condition.not_undeclared_of_operator nofun nofun)
  rwa [if_pos (.inr rfl)] at divided

/-- Being true and not, and being false and not. -/
theorem matches_bool (onBool : f.type = .boolean) {word : String}
    (isWord : word ∈ ["true", "false"]) :
    f.Matches ctx e row [word, "!" ++ word] (if (row.value f.ref).isSome then 1 else 0) := by
  have declared : ∀ {c : Condition}, ¬ c.Undeclared f :=
    Condition.not_undeclared_of_type (by simp [onBool])
  rcases List.mem_pair.1 isWord with rfl | rfl
  · have accepted : Condition.parse f.path "true" f.type =
        .ok ⟨f.path, "true", .isTrue, .none⟩ := by
      rw [onBool]
      rfl
    simpa [Operator.decidesNull] using matches_negated typed accepted rfl nofun declared
  · have accepted : Condition.parse f.path "false" f.type =
        .ok ⟨f.path, "false", .isFalse, .none⟩ := by
      rw [onBool]
      rfl
    simpa [Operator.decidesNull] using matches_negated typed accepted rfl nofun declared

end ResolvedField

/-- Opposite conditions divide the rows.  Whatever the dialect and the case setting are, and
whatever order a database gives to values of one kind and whichever texts fit, exactly one of
a condition and its opposite is true of a row with a value in the field; and of one without,
exactly one of those that decide null and none of the others. -/
theorem opposites_divide_rows (f : ResolvedField) (ctx : Context) {e : Engine V} (t : e.Typing)
    (row : JoinedRow V) (typed : f.IsTyped ctx.dialect t row) : f.Divides ctx e row := by
  refine { contains := ResolvedField.matches_contains typed
           present := ResolvedField.matches_present typed
           null := ResolvedField.matches_null typed
           bool := fun onBool _ => ResolvedField.matches_bool typed onBool
           operand := ?operand, negated := ?negated
           ordered := fun _ _ => ResolvedField.matches_ordered typed }
  case operand =>
    intro c c' isEqual isUnequal same suits declared
    obtain ⟨_, read⟩ := id suits
    have supported := Operand.supports_of_ofText? read
    exact ResolvedField.trueOf_equals_notEquals typed isEqual isUnequal same
      (by rw [isEqual, supported]) (by rw [isUnequal]; exact supported) suits declared
  case negated =>
    intro raw c accepted isEqual declared
    simpa [isEqual, Operator.decidesNull] using ResolvedField.matches_negated typed accepted
      (by rw [isEqual]; rfl) (by rw [isEqual]; decide) declared

namespace Sample

/-- Numbers in their order, texts in that of their characters, and other values only equal or
not. -/
def valueOrder : Value → Value → Ordering
  | .bigInt n, .bigInt m => compare n m
  | .text s, .text t => compareOfLessAndEq s t
  | v, w => if v = w then .eq else .lt

/-- A database of the values that statements are written with. -/
def values : Engine Value where
  same v w := v = w
  compare comparison v w :=
    if v.kind = w.kind then .ofBool (comparison.holds (valueOrder v w)) else .unknown
  fits style v pattern :=
    match v with
    | .text s => .ofBool (style.accepts .ascii pattern.toList s.toList)
    | _ => .unknown
  asText v :=
    match v with
    | .text s => .text s
    | other => .text (String.ofList (Sql.Dialect.sqlite.literal other))
  sum _ := none
  slot := id

/-- How they are typed. -/
def typing : values.Typing where
  kind := Value.kind
  order := valueOrder
  compare_eq same _ := if_pos same
  kind_asText v := by cases v <;> rfl
  fits_known {v} isText style pattern := by
    cases v with
    | text s => exact Truth.ofBool_ne_unknown _
    | _ => cases isText

/-- An article with a title, or without. -/
def titled (title : Option String) : JoinedRow Value :=
  JoinedRow.single "articles" fun column => if column = "title" then title.map .text else none

theorem isTyped_title (given : Option String) : title.IsTyped .sqlite typing (titled given) := by
  intro v isValue
  have isTitle : (titled given).value title.ref = given.map .text := by
    rw [titled, JoinedRow.value]
    rfl
  rw [isTitle] at isValue
  obtain ⟨_, _, rfl⟩ := Option.map_eq_some_iff.1 isValue
  exact .inl rfl

/-- A missing title does not contain a text, and it is not compared with one. -/
theorem opposites_divide_titles :
    title.Matches articles values (titled none) ["*an*", "!*an*"] 1 ∧
      title.Matches articles values (titled none) ["Lean", "!Lean"] 0 ∧
      title.Matches articles values (titled (some "Lean")) ["Lean", "!Lean"] 1 := by
  have missing := opposites_divide_rows title articles typing (titled none) (isTyped_title none)
  have given := opposites_divide_rows title articles typing (titled (some "Lean"))
    (isTyped_title (some "Lean"))
  have accepted : Condition.parse title.path "Lean" title.type =
      .ok ⟨"title", "Lean", .equals, .text "Lean"⟩ := rfl
  have declared : ¬ Condition.Undeclared ⟨"title", "Lean", .equals, .text "Lean"⟩ title :=
    fun undeclared => by cases undeclared.1
  exact ⟨missing.contains rfl "an", missing.negated "Lean" _ accepted rfl declared,
    given.negated "Lean" _ accepted rfl declared⟩

end Sample

end Backoffice
