import Backoffice.Proofs.Filter.Boundaries
import Backoffice.Proofs.Filter.Wildcards

/-!
# Legal filter values

A filter value is refused in two places.  Reading it refuses an operator that the type does
not support and an operand that is none of the type.  Compiling it asks both again of any
condition, since conditions also come from elsewhere.

Reading refuses all it should: the operand that it gives an operator suits it
(`Grammar.suits_of_operand?`), and a suitable operand compiles but for three cases that depend
on more than the type (`ResolvedField.formula_of_suits`).  A text that an enum field does not
declare cannot be compared with it, and a relative time may be off the calendar.  These two
are refused.  In the third one the time is in the calendar, but on a field of days its day in
the time zone is not, and there the request stops instead.
-/

namespace Backoffice

open Sql (Formula)

/-! ## Operators and operands -/

namespace Operator

/-- The operators that compare with an operand of the type of the field. -/
def isComparison (operator : Operator) : Bool :=
  operator ∈ [equals, notEquals, greaterThan, lessThan]

/-- The operators that compare with the time some hours ago. -/
def isRelative (operator : Operator) : Bool := operator ∈ [hoursBefore, hoursAfter]

end Operator

/-- An operand is what an operator needs on a field of a type. -/
def Operand.Suits (operand : Operand) (operator : Operator) (type : SemanticType) : Prop :=
  match operator with
  | .equals | .notEquals | .greaterThan | .lessThan => ∃ cs, Operand.ofText? type cs = some operand
  | .contains | .notContains | .startsWith | .endsWith => ∃ text, operand = .text text
  | .hoursBefore | .hoursAfter => ∃ count, operand = .hours count
  | _ => operand = .none

/-- What a type reads from a text is a value, and of an enum it is the text. -/
theorem Operand.value?_of_ofText? {type : SemanticType} {cs : List Char} {operand : Operand}
    (read : Operand.ofText? type cs = some operand) : ∃ value, operand.value? = some value := by
  cases operand with
  | integer | double | text | instant | day | uuid => exact ⟨_, rfl⟩
  | none | hours =>
      exfalso
      cases type with
      | number =>
          rw [ofText?, number?] at read
          split at read
          next => cases read
          next => simp at read
      | uuid | date | dateonly => simp [ofText?] at read
      | string | enum | boolean | json | unsupported => cases read

/-- Whatever a type reads may be compared with it. -/
theorem Operand.supports_of_ofText? {type : SemanticType} {cs : List Char} {operand : Operand}
    (read : Operand.ofText? type cs = some operand) : Operator.equals.supports type = true := by
  cases type with
  | boolean | json | unsupported => cases read
  | _ => rfl

namespace Grammar

variable {type : SemanticType} {cs text : List Char} {operator : Operator} {operand : Operand}

theorem suits_of_operand? (read : operand? operator type cs = some operand) :
    operand.Suits operator type := by
  cases operator with
  | equals | notEquals | greaterThan | lessThan => exact ⟨cs, read⟩
  | contains | notContains | startsWith | endsWith =>
      cases read
      exact ⟨_, rfl⟩
  | hoursBefore | hoursAfter =>
      obtain ⟨count, _, rfl⟩ := Option.map_eq_some_iff.1 read
      exact ⟨count, rfl⟩
  | isNull | isNotNull | isTrue | isFalse | isNotTrue | isNotFalse | isPresent | isBlank =>
      cases read
      rfl

/-! ## Digits of relative times -/

theorem isRelative_of_relativeTime? {parts : Operator × List Char}
    (isTime : relativeTime? cs = some parts) : parts.1.isRelative = true := by
  obtain ⟨found, _⟩ := Option.filter_eq_some_iff.1 isTime
  obtain ⟨rest, _, isParts⟩ := Option.bind_eq_some_iff.1 found
  rw [timeParts?] at isParts
  split at isParts
  next =>
    cases isParts
    rfl
  next =>
    obtain ⟨_, _, rfl⟩ := Option.map_eq_some_iff.1 isParts
    rfl

/-- A `!` is not followed by a relative time. -/
theorem isRelative_classifyNegated : (classifyNegated type cs).1.isRelative = false := by
  rw [classifyNegated]
  split
  next => rfl
  next =>
    split_ifs
    · rfl
    · rfl
    · rfl
    · rfl

theorem relativeTime?_of_classifyWord (chosen : classifyWord type cs = (operator, text))
    (relative : operator.isRelative = true) : relativeTime? cs = some (operator, text) := by
  rw [classifyWord] at chosen
  split_ifs at chosen
  case neg =>
    cases isTime : relativeTime? cs with
    | none =>
        rw [isTime] at chosen
        cases chosen
        cases relative
    | some parts =>
        rw [isTime] at chosen
        exact congrArg some chosen
  -- the other words choose operators that are not about times
  all_goals
    cases chosen
    cases relative

theorem relativeTime?_of_classifyPlain (chosen : classifyPlain type cs = (operator, text))
    (relative : operator.isRelative = true) : relativeTime? cs = some (operator, text) := by
  rw [classifyPlain] at chosen
  split at chosen
  next =>
    cases chosen
    cases relative
  next =>
    cases chosen
    cases relative
  next =>
    cases chosen
    cases relative
  next => exact relativeTime?_of_classifyWord chosen relative

/-- A filter value that chooses a relative time is one. -/
theorem relativeTime?_of_classify (chosen : classify type cs = (operator, text))
    (relative : operator.isRelative = true) : relativeTime? cs = some (operator, text) := by
  unfold classify at chosen
  split at chosen
  next rest =>
    have negated : (classifyNegated type rest).1.isRelative = false := isRelative_classifyNegated
    rw [chosen, relative] at negated
    cases negated
  next =>
    cases chosen
    cases relative
  next =>
    cases chosen
    cases relative
  next => exact relativeTime?_of_classifyPlain chosen relative

/-- The digits of a relative time are a number of hours, since they were read as one before
the operator was chosen. -/
theorem exists_hours_of_classify (chosen : classify type cs = (operator, text))
    (relative : operator.isRelative = true) : ∃ count, hours? text = some count := by
  have isTime := relativeTime?_of_classify chosen relative
  obtain ⟨_, counted⟩ := Option.filter_eq_some_iff.1 isTime
  exact Option.isSome_iff_exists.1 counted

/-- Only a comparison can lack its operand. -/
theorem operand?_eq_none_iff (chosen : classify type cs = (operator, text)) :
    operand? operator type text = none ↔
      operator.isComparison = true ∧ Operand.ofText? type text = none := by
  cases operator with
  | equals | notEquals | greaterThan | lessThan =>
      exact ⟨fun unread => ⟨rfl, unread⟩, fun unread => unread.2⟩
  | hoursBefore | hoursAfter =>
      obtain ⟨count, counted⟩ := exists_hours_of_classify chosen rfl
      refine iff_of_false ?_ fun comparison => by cases comparison.1
      rw [operand?, counted]
      exact Option.some_ne_none _
  | _ => exact iff_of_false (Option.some_ne_none _) fun comparison => by cases comparison.1

/-- The operator that a filter value chooses on a field of a type. -/
def chosen (type : SemanticType) (raw : String) : Operator := (classify type raw.toList).1

/-- The text that a filter value leaves for the operand. -/
def rest (type : SemanticType) (raw : String) : List Char := (classify type raw.toList).2

end Grammar

/-! ## Reading -/

namespace Condition

variable {path raw : String} {type : SemanticType} {c : Condition} {e : Error}

theorem parse_eq_ok :
    parse path raw type = .ok c ↔
      (Grammar.chosen type raw).supports type = true ∧
        ∃ operand, Grammar.operand? (Grammar.chosen type raw) type (Grammar.rest type raw) =
          some operand ∧ ⟨path, raw, Grammar.chosen type raw, operand⟩ = c := by
  show assemble path raw type (Grammar.chosen type raw) (Grammar.rest type raw) = _ ↔ _
  rw [assemble]
  split
  next supported =>
    split
    next operand read => simp [supported, read]
    next unread => simp [unread]
  next unsupported => simp [unsupported]

/-- A filter value is read from its operator and its operand. -/
theorem parse_of_classify {operator : Operator} {text : List Char} {operand : Operand}
    (chosen : Grammar.classify type raw.toList = (operator, text))
    (supported : operator.supports type = true)
    (read : Grammar.operand? operator type text = some operand) :
    parse path raw type = .ok ⟨path, raw, operator, operand⟩ := by
  have isOperator : Grammar.chosen type raw = operator := congrArg Prod.fst chosen
  have isRest : Grammar.rest type raw = text := congrArg Prod.snd chosen
  subst isOperator isRest
  exact parse_eq_ok.2 ⟨supported, operand, read, rfl⟩

/-- A filter value is refused for its operator, whatever the operand, or as a comparison
without operand. -/
theorem parse_eq_error :
    parse path raw type = .error e ↔
      ((Grammar.chosen type raw).supports type = false ∧
        .unsupportedOperator path raw (Grammar.chosen type raw) type = e) ∨
      ((Grammar.chosen type raw).supports type = true ∧
        (Grammar.chosen type raw).isComparison = true ∧
        Operand.ofText? type (Grammar.rest type raw) = none ∧ .typeMismatch path raw type = e) := by
  have unread := Grammar.operand?_eq_none_iff
    (show Grammar.classify type raw.toList = (Grammar.chosen type raw, Grammar.rest type raw)
      from rfl)
  rw [← and_assoc (b := Operand.ofText? type (Grammar.rest type raw) = none), ← unread]
  show assemble path raw type (Grammar.chosen type raw) (Grammar.rest type raw) = _ ↔ _
  rw [assemble]
  cases supported : (Grammar.chosen type raw).supports type with
  | false => simp
  | true =>
      cases read : Grammar.operand? (Grammar.chosen type raw) type (Grammar.rest type raw) with
      | none => simp
      | some operand => simp

/-- The text that a condition compares an enum field with is not a declared value. -/
def Undeclared (c : Condition) (f : ResolvedField) : Prop :=
  f.type = .enum ∧ (c.operator = .equals ∨ c.operator = .notEquals) ∧
    ∃ text, c.operand = .text text ∧ text ∉ f.field.enumValues.getD []

theorem not_undeclared_of_type {c : Condition} {f : ResolvedField} (notEnum : f.type ≠ .enum) :
    ¬ c.Undeclared f := fun undeclared => notEnum undeclared.1

theorem not_undeclared_of_operator {c : Condition} {f : ResolvedField}
    (notEqual : c.operator ≠ .equals) (notUnequal : c.operator ≠ .notEquals) :
    ¬ c.Undeclared f := fun undeclared => undeclared.2.1.elim notEqual notUnequal

/-- The instant that a condition compares with is off the calendar. -/
def LeavesCalendar (c : Condition) (ctx : Context) : Prop :=
  ∃ count, c.operand = .hours count ∧ ctx.now.hoursBefore? count = none

/-- The instant that a condition is about is in the calendar, but the day in the time zone that
a field of days is compared with is not. -/
def Stops (c : Condition) (f : ResolvedField) (ctx : Context) : Prop :=
  f.type = .dateonly ∧ ∃ count, c.operand = .hours count ∧
    ∃ t, ctx.now.hoursBefore? count = some t ∧ ctx.zone.IsOffCalendar t

end Condition

/-! ## Compiling -/

namespace ResolvedField

variable {f : ResolvedField} {ctx : Context} {c : Condition} {formula : Formula} {e : Error}

theorem equalityFormula_eq_error {d : Sql.Dialect} {comparison : Sql.Comparison}
    (fault : f.equalityFormula d comparison c = .error e) :
    e = .typeMismatch f.path c.raw f.type := by
  rw [equalityFormula] at fault
  split at fault
  next =>
    cases fault
    rfl
  next =>
    split_ifs at fault
    cases fault
    rfl

theorem orderFormula_eq_error {comparison : Sql.Comparison}
    (fault : f.orderFormula comparison c = .error e) : e = .typeMismatch f.path c.raw f.type := by
  rw [orderFormula] at fault
  split at fault
  next =>
    cases fault
    rfl
  next => cases fault

theorem textFormula_eq_error (fault : f.textFormula ctx c = .error e) :
    e = .typeMismatch f.path c.raw f.type := by
  rw [textFormula] at fault
  split at fault
  next => cases fault
  next =>
    cases fault
    rfl

theorem hoursFormula_eq_error {comparison : Sql.Comparison}
    (fault : f.hoursFormula ctx comparison c = .error e) :
    e = .typeMismatch f.path c.raw f.type ∨ e = .request (.conditionOutOfRange c.raw) ∨
      c.Stops f ctx ∧ e = .stopped := by
  rw [hoursFormula] at fault
  split at fault
  next count isHours =>
    split at fault
    next t isBoundary =>
      obtain ⟨onDay, off, rfl⟩ := boundary_eq_error.1 (Except.map_eq_error.1 fault)
      exact .inr (.inr ⟨⟨onDay, count, isHours, t, isBoundary, off⟩, rfl⟩)
    next =>
      cases fault
      exact .inr (.inl rfl)
  next =>
    cases fault
    exact .inl rfl

/-- The faults of a condition whose operator the field supports. -/
theorem formula_eq_error (fault : f.formula ctx c = .error e) :
    e = .typeMismatch f.path c.raw f.type ∨ e = .request (.conditionOutOfRange c.raw) ∨
      c.Stops f ctx ∧ e = .stopped := by
  rw [ResolvedField.formula] at fault
  cases operator : c.operator with
  | equals | notEquals =>
      rw [operator] at fault
      exact .inl (equalityFormula_eq_error fault)
  | greaterThan | lessThan =>
      rw [operator] at fault
      exact .inl (orderFormula_eq_error fault)
  | contains | startsWith | endsWith =>
      rw [operator] at fault
      exact .inl (textFormula_eq_error fault)
  | notContains =>
      rw [operator] at fault
      cases found : f.textFormula ctx c with
      | ok =>
          simp only [found] at fault
          cases fault
      | error =>
          simp only [found] at fault
          cases fault
          exact .inl (textFormula_eq_error found)
  | hoursBefore | hoursAfter =>
      rw [operator] at fault
      exact hoursFormula_eq_error fault
  | isNull | isNotNull | isTrue | isFalse | isNotTrue | isNotFalse | isPresent | isBlank =>
      rw [operator] at fault
      cases fault

/-- What an equality on a resolved field reads of a row. -/
def equalitySubject (f : ResolvedField) (d : Sql.Dialect) : Sql.Subject :=
  if f.type = .enum then f.textSubject d else .column f.ref

/-- The formula of an equality whose operand has a value. -/
theorem equalityFormula_eq_ok {d : Sql.Dialect} {comparison : Sql.Comparison} :
    f.equalityFormula d comparison c = .ok formula ↔
      ∃ value, c.operand.value? = some value ∧ (f.type = .enum → f.isMember c.operand = true) ∧
        .compare comparison (f.equalitySubject d) value = formula := by
  rw [equalityFormula, equalitySubject]
  cases c.operand.value? with
  | none => simp [mismatch]
  | some value =>
      simp only [Option.some.injEq, exists_eq_left']
      by_cases isEnum : f.type = .enum
      · by_cases member : f.isMember c.operand = true
        · simp [isEnum, member]
        · simp [isEnum, member, mismatch]
      · simp [isEnum, compares]

/-- On an enum field an operand is a member when its text is declared. -/
theorem isMember_ofText? (isEnum : f.type = .enum) {cs : List Char} {operand : Operand}
    (read : Operand.ofText? f.type cs = some operand) :
    f.isMember operand = (f.field.enumValues.getD []).contains (String.ofList cs) := by
  rw [isEnum] at read
  cases read
  rfl

/-- An operand that is no number of hours names no instant that could be off the calendar. -/
theorem not_relative (f : ResolvedField) (ctx : Context)
    (notHours : ∀ count, c.operand ≠ .hours count) :
    ¬ c.LeavesCalendar ctx ∧ ¬ c.Stops f ctx :=
  ⟨fun ⟨count, hours, _⟩ => notHours count hours, fun ⟨_, count, hours, _⟩ => notHours count hours⟩

/-- A value that is compared with is no number of hours. -/
theorem ne_hours_of_value {value : Sql.Value} (isValue : c.operand.value? = some value)
    (count : Nat) : c.operand ≠ .hours count := by
  intro hours
  rw [hours] at isValue
  cases isValue

/-- A text that is not undeclared is declared. -/
theorem isMember_of_not_undeclared {cs : List Char}
    (isEquality : c.operator = .equals ∨ c.operator = .notEquals)
    (read : Operand.ofText? f.type cs = some c.operand) (declared : ¬ c.Undeclared f)
    (isEnum : f.type = .enum) : f.isMember c.operand = true := by
  rw [isMember_ofText? isEnum read, List.contains_iff_mem]
  by_contra absent
  rw [isEnum] at read
  exact declared ⟨isEnum, isEquality, _, (Option.some.inj read).symm, absent⟩

/-- An equality compiles unless its text is not declared. -/
theorem equalityFormula_of_suits (d : Sql.Dialect) {comparison : Sql.Comparison}
    (isEquality : c.operator = .equals ∨ c.operator = .notEquals)
    (suits : c.operand.Suits .equals f.type) :
    (c.Undeclared f → f.equalityFormula d comparison c = f.mismatch c) ∧
      (¬ c.Undeclared f → ∃ value, c.operand.value? = some value ∧
        f.equalityFormula d comparison c =
          .ok (.compare comparison (f.equalitySubject d) value)) := by
  constructor
  · rintro ⟨isEnum, _, text, isText, undeclared⟩
    rw [equalityFormula, isText]
    simp [Operand.value?, isEnum, isMember, undeclared]
  · intro declared
    obtain ⟨cs, read⟩ := suits
    obtain ⟨value, isValue⟩ := Operand.value?_of_ofText? read
    exact ⟨value, isValue, equalityFormula_eq_ok.2
      ⟨value, isValue, isMember_of_not_undeclared isEquality read declared, rfl⟩⟩

/-- A relative time compiles unless its instant or the day that it means is off the
calendar. -/
theorem hoursFormula_of_suits (f : ResolvedField) (ctx : Context) {comparison : Sql.Comparison}
    {count : Nat} (hours : c.operand = .hours count) :
    (c.LeavesCalendar ctx ∧
        f.hoursFormula ctx comparison c = .error (.request (.conditionOutOfRange c.raw))) ∨
      (c.Stops f ctx ∧ f.hoursFormula ctx comparison c = .error .stopped) ∨
      (¬ c.LeavesCalendar ctx ∧ ¬ c.Stops f ctx ∧
        ∃ formula, f.hoursFormula ctx comparison c = .ok formula) := by
  have sameHours : ∀ {count'}, c.operand = .hours count' → count' = count := by
    intro count' hours'
    rw [hours, Operand.hours.injEq] at hours'
    exact hours'.symm
  rw [hoursFormula, hours]
  dsimp only
  cases isBoundary : ctx.now.hoursBefore? count with
  | none => exact .inl ⟨⟨count, hours, isBoundary⟩, rfl⟩
  | some t =>
      have inside : ¬ c.LeavesCalendar ctx := by
        rintro ⟨count', hours', outside⟩
        rw [sameHours hours', isBoundary] at outside
        cases outside
      dsimp only
      cases compared : f.boundary ctx t with
      | error e =>
          obtain ⟨onDay, off, rfl⟩ := boundary_eq_error.1 compared
          exact .inr (.inl ⟨⟨onDay, count, hours, t, isBoundary, off⟩, rfl⟩)
      | ok value =>
          refine .inr (.inr ⟨inside, ?_, _, rfl⟩)
          rintro ⟨onDay, count', hours', t', isBoundary', off⟩
          rw [sameHours hours', isBoundary, Option.some.injEq] at isBoundary'
          subst isBoundary'
          rw [boundary_eq_error.2 ⟨onDay, off, rfl⟩] at compared
          cases compared

/-- With a suitable operand a condition compiles but for the three cases that depend on more
than the type. -/
theorem formula_of_suits (ctx : Context) (suits : c.operand.Suits c.operator f.type) :
    (c.Undeclared f ∧ f.formula ctx c = f.mismatch c) ∨
      (c.LeavesCalendar ctx ∧
        f.formula ctx c = .error (.request (.conditionOutOfRange c.raw))) ∨
      (c.Stops f ctx ∧ f.formula ctx c = .error .stopped) ∨
      (¬ c.Undeclared f ∧ ¬ c.LeavesCalendar ctx ∧ ¬ c.Stops f ctx ∧
        ∃ formula, f.formula ctx c = .ok formula) := by
  have notEquality : c.operator ≠ .equals → c.operator ≠ .notEquals → ¬ c.Undeclared f :=
    Condition.not_undeclared_of_operator
  -- all but relative times compile unless a text is undeclared
  have compiles : (∀ count, c.operand ≠ .hours count) → ¬ c.Undeclared f →
      (∃ formula, f.formula ctx c = .ok formula) →
      ¬ c.Undeclared f ∧ ¬ c.LeavesCalendar ctx ∧ ¬ c.Stops f ctx ∧
        ∃ formula, f.formula ctx c = .ok formula := fun notHours declared isFormula =>
    ⟨declared, (not_relative f ctx notHours).1, (not_relative f ctx notHours).2, isFormula⟩
  rw [ResolvedField.formula] at compiles ⊢
  cases operator : c.operator with
  | equals | notEquals =>
      rw [operator] at suits compiles
      have isEquality : c.operator = .equals ∨ c.operator = .notEquals := by simp [operator]
      by_cases undeclared : c.Undeclared f
      · exact .inl ⟨undeclared,
          (equalityFormula_of_suits ctx.dialect isEquality suits).1 undeclared⟩
      · obtain ⟨value, isValue, isFormula⟩ :=
          (equalityFormula_of_suits ctx.dialect isEquality suits).2 undeclared
        exact .inr (.inr (.inr
          (compiles (ne_hours_of_value isValue) undeclared ⟨_, isFormula⟩)))
  | greaterThan | lessThan =>
      rw [operator] at suits compiles
      obtain ⟨cs, read⟩ := suits
      obtain ⟨value, isValue⟩ := Operand.value?_of_ofText? read
      refine .inr (.inr (.inr (compiles (ne_hours_of_value isValue)
        (notEquality (by simp [operator]) (by simp [operator])) ?_)))
      simp only [orderFormula, isValue]
      exact ⟨_, rfl⟩
  | contains | notContains | startsWith | endsWith =>
      rw [operator] at suits compiles
      obtain ⟨text, isText⟩ := suits
      refine .inr (.inr (.inr (compiles (by simp [isText])
        (notEquality (by simp [operator]) (by simp [operator])) ?_)))
      simp only [textFormula, isText]
      exact ⟨_, rfl⟩
  | hoursBefore | hoursAfter =>
      rw [operator] at suits
      obtain ⟨count, hours⟩ := suits
      rcases hoursFormula_of_suits f ctx hours with outside | stops | ⟨inside, goesOn, isFormula⟩
      · exact .inr (.inl outside)
      · exact .inr (.inr (.inl stops))
      · exact .inr (.inr (.inr ⟨notEquality (by simp [operator]) (by simp [operator]), inside,
          goesOn, isFormula⟩))
  | isNull | isNotNull | isTrue | isFalse | isNotTrue | isNotFalse | isPresent | isBlank =>
      rw [operator] at suits compiles
      have noOperand : c.operand = .none := suits
      exact .inr (.inr (.inr (compiles (by simp [noOperand])
        (notEquality (by simp [operator]) (by simp [operator])) ⟨_, rfl⟩)))

theorem compile_of_supports (supported : c.operator.supports f.type = true) :
    f.compile ctx c = (f.formula ctx c).map (f.predicate c) := by
  rw [compile, if_pos supported]
  cases f.formula ctx c with
  | error => rfl
  | ok => rfl

theorem compile_of_not_supports (unsupported : c.operator.supports f.type = false) :
    f.compile ctx c = .error (.unsupportedOperator f.path c.raw c.operator f.type) := by
  rw [compile, unsupported]
  rfl

/-- The faults of compiling. -/
theorem compile_eq_error (fault : f.compile ctx c = .error e) :
    (c.operator.supports f.type = false ∧
        e = .unsupportedOperator f.path c.raw c.operator f.type) ∨
      (c.operator.supports f.type = true ∧
        (e = .typeMismatch f.path c.raw f.type ∨ e = .request (.conditionOutOfRange c.raw) ∨
          c.Stops f ctx ∧ e = .stopped)) := by
  cases supported : c.operator.supports f.type with
  | false =>
      rw [compile_of_not_supports supported] at fault
      cases fault
      exact .inl ⟨rfl, rfl⟩
  | true =>
      rw [compile_of_supports supported] at fault
      exact .inr ⟨rfl, formula_eq_error (Except.map_eq_error.1 fault)⟩

/-- A supported condition with a suitable operand compiles but for the three cases. -/
theorem compile_of_suits (supported : c.operator.supports f.type = true)
    (suits : c.operand.Suits c.operator f.type) :
    (c.Undeclared f ∧ f.compile ctx c = .error (.typeMismatch f.path c.raw f.type)) ∨
      (c.LeavesCalendar ctx ∧
        f.compile ctx c = .error (.request (.conditionOutOfRange c.raw))) ∨
      (c.Stops f ctx ∧ f.compile ctx c = .error .stopped) ∨
      (¬ c.Undeclared f ∧ ¬ c.LeavesCalendar ctx ∧ ¬ c.Stops f ctx ∧
        ∃ p, f.compile ctx c = .ok p) := by
  rw [compile_of_supports supported]
  rcases formula_of_suits ctx suits with
    ⟨undeclared, fault⟩ | ⟨outside, fault⟩ | ⟨stops, fault⟩ |
      ⟨declared, inside, goesOn, formula, isFormula⟩
  · rw [fault]
    exact .inl ⟨undeclared, rfl⟩
  · rw [fault]
    exact .inr (.inl ⟨outside, rfl⟩)
  · rw [fault]
    exact .inr (.inr (.inl ⟨stops, rfl⟩))
  · rw [isFormula]
    exact .inr (.inr (.inr ⟨declared, inside, goesOn, _, rfl⟩))

end ResolvedField

/-- Reading and compiling agree on the filter values that are legal, but for one case.  Reading
refuses a value for its operator, exactly when the type does not support it, or as a comparison
whose operand is none of the type, and never for the hours of a relative time.  What it accepts
compiles but for an enum value that is not declared and a relative time off the calendar, which
are refused, and a relative time in the calendar on a local day off the calendar, which stops
the request on a field of days and on no other.  Compiling refuses any other condition for the
same reasons, with the path of the field and the value as it came. -/
theorem reading_and_compiling_agree (f : ResolvedField) (ctx : Context) (path raw : String) :
    (∀ e, Condition.parse path raw f.type = .error e ↔
      ((Grammar.chosen f.type raw).supports f.type = false ∧
        .unsupportedOperator path raw (Grammar.chosen f.type raw) f.type = e) ∨
      ((Grammar.chosen f.type raw).supports f.type = true ∧
        (Grammar.chosen f.type raw).isComparison = true ∧
        Operand.ofText? f.type (Grammar.rest f.type raw) = none ∧
        .typeMismatch path raw f.type = e)) ∧
    (∀ c, Condition.parse path raw f.type = .ok c →
      c.field = path ∧ c.raw = raw ∧ c.operator = Grammar.chosen f.type raw ∧
      ((c.Undeclared f ∧ f.compile ctx c = .error (.typeMismatch f.path raw f.type)) ∨
        (c.LeavesCalendar ctx ∧ f.compile ctx c = .error (.request (.conditionOutOfRange raw))) ∨
        (c.Stops f ctx ∧ f.compile ctx c = .error .stopped) ∨
        (¬ c.Undeclared f ∧ ¬ c.LeavesCalendar ctx ∧ ¬ c.Stops f ctx ∧
          ∃ p, f.compile ctx c = .ok p))) ∧
    ((Grammar.chosen f.type raw).isRelative = true →
      ∃ count, Grammar.hours? (Grammar.rest f.type raw) = some count) ∧
    ∀ c : Condition,
      (c.operator.supports f.type = false ↔
        f.compile ctx c = .error (.unsupportedOperator f.path c.raw c.operator f.type)) ∧
      ∀ e, f.compile ctx c = .error e →
        e = .unsupportedOperator f.path c.raw c.operator f.type ∨
        e = .typeMismatch f.path c.raw f.type ∨ e = .request (.conditionOutOfRange c.raw) ∨
        c.Stops f ctx ∧ e = .stopped := by
  refine ⟨fun e => Condition.parse_eq_error, fun c accepted => ?_,
    fun relative => Grammar.exists_hours_of_classify rfl relative, fun c => ⟨?_, fun e fault => ?_⟩⟩
  · obtain ⟨supported, operand, read, rfl⟩ := Condition.parse_eq_ok.1 accepted
    exact ⟨rfl, rfl, rfl,
      ResolvedField.compile_of_suits supported (Grammar.suits_of_operand? read)⟩
  · refine ⟨ResolvedField.compile_of_not_supports, fun fault => ?_⟩
    rcases ResolvedField.compile_eq_error fault with
      ⟨unsupported, _⟩ | ⟨_, mismatch | outside | ⟨_, stops⟩⟩
    · exact unsupported
    · cases mismatch
    · cases outside
    · cases stops
  · rcases ResolvedField.compile_eq_error fault with ⟨_, same⟩ | ⟨_, same⟩
    · exact .inl same
    · exact .inr same

namespace Sample

/-- A title is not greater than any text, and the greatest number of hours goes back beyond
the calendar. -/
theorem reading_and_compiling_agree_on_articles :
    Condition.parse "title" ">a" .string =
        .error (.unsupportedOperator "title" ">a" .greaterThan .string) ∧
      ∃ c, Condition.parse "created_at" "$4294967295HoursAfter" .date = .ok c ∧
        createdAt.compile articles c =
          .error (.request (.conditionOutOfRange "$4294967295HoursAfter")) := by
  constructor
  · exact ((reading_and_compiling_agree title articles "title" ">a").1 _).2 (.inl ⟨rfl, rfl⟩)
  · refine ⟨⟨"created_at", "$4294967295HoursAfter", .hoursAfter, .hours 4294967295⟩, rfl, ?_⟩
    obtain ⟨_, _, _, verdict⟩ := (reading_and_compiling_agree createdAt articles "created_at"
      "$4294967295HoursAfter").2.1 _ rfl
    rcases verdict with ⟨undeclared, _⟩ | ⟨_, fault⟩ | ⟨stops, _⟩ | ⟨_, inside, _⟩
    · cases undeclared.1
    · exact fault
    · cases stops.1
    · exact absurd ⟨_, rfl, rfl⟩ inside

end Sample

end Backoffice
