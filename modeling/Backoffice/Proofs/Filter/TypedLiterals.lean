import Backoffice.Proofs.Calendar.Characters
import Backoffice.Proofs.Calendar.Writing
import Backoffice.Proofs.Filter.Opposites
import Backoffice.Proofs.Filter.TextForms
import Backoffice.Proofs.Listing.KeyCondition

/-!
# Literals of numbers, times and identifiers

In an id a text stands for the value of a key, and in a filter the grammar looks at it first.
A literal of a number, a time, a day or an identifier means the same in both, because no rule
of the grammar takes it: it has none of the characters the rules look for
(`Operand.isPlain_of_ofText?`).

The values that the program writes are such literals: numbers of 64 bits by their digits,
identifiers in either letter case, and days of the calendar.
-/

namespace Backoffice

namespace SemanticType

variable {type : SemanticType}

/-- Whether the values of a type are read from text by a format of their own. -/
def hasLiterals : SemanticType → Bool
  | number | date | dateonly | uuid => true
  | string | boolean | enum | json | unsupported => false

theorem ne_boolean (literal : type.hasLiterals = true) : type ≠ .boolean := by
  rintro rfl
  cases literal

theorem supports_equality (literal : type.hasLiterals = true) :
    Operator.equals.supports type = true ∧ Operator.notEquals.supports type = true := by
  cases type with
  | number | date | dateonly | uuid => exact ⟨rfl, rfl⟩
  | string | boolean | enum | json | unsupported => cases literal

end SemanticType

namespace Grammar

variable {cs : List Char} {type : SemanticType}

/-! ## Texts that no rule takes -/

/-- The characters that the rules of the grammar look for: the signs, the mark of a word and
of a relative time, and a letter of `null`. -/
def capturing : List Char := TextForm.signs ++ ['$', 'l']

/-- A text has no character that a rule of the grammar looks for. -/
def IsPlain (cs : List Char) : Prop := ∀ c ∈ cs, c ∉ capturing

theorem IsPlain.not_mem (plain : IsPlain cs) {c : Char} (captures : c ∈ capturing) : c ∉ cs :=
  fun member => plain c member captures

theorem IsPlain.head? (plain : IsPlain cs) : ∀ sign ∈ TextForm.signs, cs.head? ≠ some sign :=
  fun _ isSign first =>
    plain.not_mem (List.mem_append_left _ isSign) (List.mem_of_head? first)

theorem IsPlain.getLast? (plain : IsPlain cs) : cs.getLast? ≠ some '*' :=
  fun last => plain.not_mem (by decide) (List.mem_of_getLast? last)

theorem IsPlain.ne_of_mem (plain : IsPlain cs) {word : List Char} {c : Char}
    (captures : c ∈ capturing) (member : c ∈ word) : cs ≠ word :=
  fun same => plain.not_mem captures (same ▸ member)

theorem IsPlain.relativeTime? (plain : IsPlain cs) : relativeTime? cs = none := by
  rw [← Option.not_isSome_iff_eq_none, ← String.toList_ofList (l := cs), isSome_relativeTime?]
  rintro ⟨digits, _, _, _, isTime⟩
  have marked : '$' ∈ cs := by
    rw [← String.toList_ofList (l := cs)]
    rcases isTime with same | same <;> simp [same]
  exact plain.not_mem (by decide) marked

/-- Without a sign a plain text is compared as it stands. -/
theorem classify_of_isPlain (plain : IsPlain cs) (notBool : type ≠ .boolean) :
    classify type cs = (.equals, cs) := by
  have notNull : cs ≠ nullWord := plain.ne_of_mem (c := 'l') (by decide) (by decide +kernel)
  have notPresent : cs ≠ presentWord := plain.ne_of_mem (c := '$') (by decide) (by decide +kernel)
  have notBlank : cs ≠ blankWord := plain.ne_of_mem (c := '$') (by decide) (by decide +kernel)
  rw [classify_of_unclosed plain.head? plain.getLast?]
  simp [classifyWord, notNull, notPresent, notBlank, notBool, plain.relativeTime?]

/-- After `!` a plain text is compared as it stands. -/
theorem classifyNegated_of_isPlain (plain : IsPlain cs) (notBool : type ≠ .boolean) :
    classifyNegated type cs = (.notEquals, cs) := by
  have notNull : cs ≠ nullWord := plain.ne_of_mem (c := 'l') (by decide) (by decide +kernel)
  rw [classifyNegated, betweenWildcards?_eq_none_of_head? (plain.head? '*' (by decide))]
  simp [notNull, notBool]

/-- What a negated text is compared with is the whole text. -/
theorem rest_of_notEquals {rest : List Char}
    (chosen : classifyNegated type cs = (.notEquals, rest)) : rest = cs := by
  rw [classifyNegated] at chosen
  split at chosen
  next => cases chosen
  next =>
    split_ifs at chosen
    all_goals cases chosen
    rfl

end Grammar

/-! ## Characters of literals -/

/-- What has other characters only is plain. -/
theorem Grammar.isPlain_of_each {cs : List Char} {P : Char → Prop} [DecidablePred P]
    (each : ∀ c ∈ cs, P c) (excluded : capturing.all (fun c => ¬ P c) = true) : IsPlain cs :=
  fun c member captures =>
    of_decide_eq_true (List.all_eq_true.1 excluded c captures) (each c member)

/-- A literal has none of the characters that the grammar looks for. -/
theorem Operand.isPlain_of_ofText? {type : SemanticType} {cs : List Char} {v : Operand}
    (literal : type.hasLiterals = true) (read : Operand.ofText? type cs = some v) :
    Grammar.IsPlain cs := by
  cases type with
  | number =>
      rw [ofText?, number?] at read
      split at read
      next n isInteger =>
        have integer := (Option.filter_eq_some_iff.1 isInteger).1
        exact Grammar.isPlain_of_each (Decimal.each_of_integer? integer) (by decide)
      next =>
        obtain ⟨x, isDouble, _⟩ := Option.map_eq_some_iff.1 read
        exact Grammar.isPlain_of_each (Double.each_of_read? isDouble) (by decide)
  | date =>
      obtain ⟨t, isInstant, _⟩ := Option.map_eq_some_iff.1 read
      exact Grammar.isPlain_of_each (Instant.each_of_read? isInstant) (by decide)
  | dateonly =>
      obtain ⟨d, isDay, _⟩ := Option.map_eq_some_iff.1 read
      exact Grammar.isPlain_of_each (Day.each_of_read? isDay) (by decide)
  | uuid =>
      obtain ⟨u, isUuid, _⟩ := Option.map_eq_some_iff.1 read
      exact Grammar.isPlain_of_each (Uuid.each_of_read? isUuid) (by decide)
  | string | boolean | enum | json | unsupported => cases literal

namespace Condition

variable {field text raw : String} {type : SemanticType} {operator : Operator} {cs : List Char}
  {v : Operand}

/-! ## Literals in filters -/

theorem operand?_of_isComparison (comparison : operator.isComparison = true) :
    Grammar.operand? operator type cs = Operand.ofText? type cs := by
  cases operator with
  | equals | notEquals | greaterThan | lessThan => rfl
  | _ => cases comparison

/-- A comparison is with the operand that the type reads. -/
theorem assemble_eq_ok_iff (comparison : operator.isComparison = true)
    (supported : operator.supports type = true) :
    assemble field raw type operator cs = .ok ⟨field, raw, operator, v⟩ ↔
      Operand.ofText? type cs = some v := by
  rw [assemble, if_pos supported, operand?_of_isComparison comparison]
  split
  next read => simp [read]
  next unread => simp [unread]

/-- A comparison with a text that is no operand is a fault. -/
theorem assemble_eq_error (comparison : operator.isComparison = true)
    (supported : operator.supports type = true) (unread : Operand.ofText? type cs = none) :
    assemble field raw type operator cs = .error (.typeMismatch field raw type) := by
  rw [assemble, if_pos supported, operand?_of_isComparison comparison, unread]

theorem equals_eq_ok_iff (supported : Operator.equals.supports type = true) :
    equals field text type = .ok ⟨field, text, .equals, v⟩ ↔
      Operand.ofText? type text.toList = some v :=
  assemble_eq_ok_iff rfl supported

/-- Under a comparison that takes the whole text, a filter value asks for what the text is. -/
theorem parse_eq_ok_iff_equals (supports : Operator.equals.supports type = true)
    (comparison : operator.isComparison = true) (supported : operator.supports type = true)
    (chosen : Grammar.classify type raw.toList = (operator, text.toList)) :
    equals field text type = .ok ⟨field, text, .equals, v⟩ ↔
      parse field raw type = .ok ⟨field, raw, operator, v⟩ := by
  rw [equals_eq_ok_iff supports, parse, chosen]
  exact (assemble_eq_ok_iff comparison supported).symm

/-- What a filter value without a sign asks for when it is compared as it stands. -/
theorem chosen_of_parse (accepted : parse field raw type = .ok ⟨field, raw, operator, v⟩) :
    Grammar.classify type raw.toList = (operator, Grammar.rest type raw) := by
  obtain ⟨_, _, _, same⟩ := parse_eq_ok.1 accepted
  exact Prod.ext (congrArg Condition.operator same) rfl

/-- A literal is compared for equality in a filter as it is in an id. -/
theorem equals_iff_parse (literal : type.hasLiterals = true) :
    equals field text type = .ok ⟨field, text, .equals, v⟩ ↔
      parse field text type = .ok ⟨field, text, .equals, v⟩ := by
  have supports := (SemanticType.supports_equality literal).1
  constructor
  · intro accepted
    have plain := Operand.isPlain_of_ofText? literal ((equals_eq_ok_iff supports).1 accepted)
    have chosen := Grammar.classify_of_isPlain plain (SemanticType.ne_boolean literal)
    exact (parse_eq_ok_iff_equals supports rfl supports chosen).1 accepted
  · intro accepted
    have chosen := chosen_of_parse accepted
    rw [Grammar.eq_of_equals chosen] at chosen
    exact (parse_eq_ok_iff_equals supports rfl supports chosen).2 accepted

/-- With `!` in front a literal is what the field does not equal. -/
theorem equals_iff_parse_negated (literal : type.hasLiterals = true) :
    equals field text type = .ok ⟨field, text, .equals, v⟩ ↔
      parse field ("!" ++ text) type = .ok ⟨field, "!" ++ text, .notEquals, v⟩ := by
  obtain ⟨supports, supportsNot⟩ := SemanticType.supports_equality literal
  have negated : Grammar.classify type ("!" ++ text).toList =
      Grammar.classifyNegated type text.toList := by
    rw [String.toList_append]
    rfl
  constructor
  · intro accepted
    have plain := Operand.isPlain_of_ofText? literal ((equals_eq_ok_iff supports).1 accepted)
    have chosen := Grammar.classifyNegated_of_isPlain plain (SemanticType.ne_boolean literal)
    exact (parse_eq_ok_iff_equals supports rfl supportsNot (negated.trans chosen)).1 accepted
  · intro accepted
    have chosen := chosen_of_parse accepted
    rw [negated] at chosen
    rw [Grammar.rest_of_notEquals chosen] at chosen
    exact (parse_eq_ok_iff_equals supports rfl supportsNot (negated.trans chosen)).2 accepted

/-- With `>` or `<` in front a literal is a bound. -/
theorem equals_iff_parse_ordered (literal : type.hasLiterals = true)
    (ordered : type.isOrdered = true) :
    (equals field text type = .ok ⟨field, text, .equals, v⟩ ↔
      parse field (">" ++ text) type = .ok ⟨field, ">" ++ text, .greaterThan, v⟩) ∧
    (equals field text type = .ok ⟨field, text, .equals, v⟩ ↔
      parse field ("<" ++ text) type = .ok ⟨field, "<" ++ text, .lessThan, v⟩) := by
  have supports := (SemanticType.supports_equality literal).1
  constructor
  · refine parse_eq_ok_iff_equals supports rfl ordered ?_
    rw [String.toList_append]
    rfl
  · refine parse_eq_ok_iff_equals supports rfl ordered ?_
    rw [String.toList_append]
    rfl

end Condition

/-! ## Literals -/

/-- Literals mean the same in ids and in filters.  A text that is a number, a time, a day or an
identifier where a key is asked for is compared with that value in a filter, alone, after `!`,
and for an ordered type after `>` and `<`; and a filter compares with nothing else.

The digits of a number of 64 bits, either spelling of an identifier, and the date of a day of
the calendar are such texts, and they give their value back. -/
theorem literals_mean_the_same (field : String) :
    (∀ (type : SemanticType) (text : String) (c : Condition),
      Condition.equals field text type = .ok c → c = ⟨field, text, .equals, c.operand⟩) ∧
    (∀ (type : SemanticType) (text : String) (v : Operand), type.hasLiterals = true →
      let accepted := Condition.equals field text type = .ok ⟨field, text, .equals, v⟩
      (accepted ↔ Condition.parse field text type = .ok ⟨field, text, .equals, v⟩) ∧
      (accepted ↔ Condition.parse field ("!" ++ text) type =
        .ok ⟨field, "!" ++ text, .notEquals, v⟩) ∧
      (type.isOrdered = true →
        (accepted ↔ Condition.parse field (">" ++ text) type =
          .ok ⟨field, ">" ++ text, .greaterThan, v⟩) ∧
        (accepted ↔ Condition.parse field ("<" ++ text) type =
          .ok ⟨field, "<" ++ text, .lessThan, v⟩))) ∧
    (∀ n : ℤ, Text.isInt64 n = true →
      Condition.equals field (Text.showInt n) .number =
        .ok ⟨field, Text.showInt n, .equals, .integer n⟩) ∧
    (∀ u : Uuid, u.IsSpelling u.toString ∧ u.IsSpelling u.toString.toUpper ∧
      ∀ text, u.IsSpelling text →
        Condition.equals field text .uuid = .ok ⟨field, text, .equals, .uuid u⟩) ∧
    ∀ d : Day, d.inCalendar = true →
      Condition.equals field d.toString .dateonly = .ok ⟨field, d.toString, .equals, .day d⟩ ∧
      Condition.equals field d.toString .date =
        .ok ⟨field, d.toString, .equals, .instant (Instant.ofClock d .midnight)⟩ := by
  refine ⟨?_, ?_, ?_, ?_, ?_⟩
  · intro type text c accepted
    obtain ⟨operand, _, rfl⟩ := Condition.equals_eq_ok.1 accepted
    rfl
  · intro type text v literal
    exact ⟨Condition.equals_iff_parse literal, Condition.equals_iff_parse_negated literal,
      Condition.equals_iff_parse_ordered literal⟩
  · intro n small
    refine (Condition.equals_eq_ok_iff rfl).2 ?_
    rw [Text.showInt, String.toList_ofList]
    exact Operand.number?_signedDigits small
  · intro u
    refine ⟨u.isSpelling_toString, u.isSpelling_toUpper, fun text spelling => ?_⟩
    refine (Condition.equals_eq_ok_iff rfl).2 ?_
    rw [Operand.ofText?, Uuid.read?_of_isSpelling spelling, Option.map_some]
  · intro d inCalendar
    constructor
    · refine (Condition.equals_eq_ok_iff rfl).2 ?_
      rw [Day.toString, String.toList_ofList, Operand.ofText?, Day.read?_text inCalendar,
        Option.map_some]
    · refine (Condition.equals_eq_ok_iff rfl).2 ?_
      rw [Day.toString, String.toList_ofList, Operand.ofText?,
        Day.instant_read?_text inCalendar, Option.map_some]

/-- The Ides of March in the year 44 before the common era, which is written as year -43. -/
def Sample.ides : Day := Day.ofDate ⟨-43, 3, 15⟩

/-- An identifier with all sixteen digits. -/
def Sample.uuid : Uuid := ⟨List.finRange 16 ++ List.finRange 16, rfl⟩

/-- The smallest number of 64 bits, an identifier in capitals and a day before year 0, each
after a sign. -/
theorem literals_mean_the_same_after_signs :
    Condition.parse "id" "<-9223372036854775808" .number =
      .ok ⟨"id", "<-9223372036854775808", .lessThan, .integer (-9223372036854775808)⟩ ∧
    Condition.parse "code" "!01234567-89AB-CDEF-0123-456789ABCDEF" .uuid =
      .ok ⟨"code", "!01234567-89AB-CDEF-0123-456789ABCDEF", .notEquals, .uuid Sample.uuid⟩ ∧
    Condition.parse "day" ">-0043-03-15" .dateonly =
      .ok ⟨"day", ">-0043-03-15", .greaterThan, .day Sample.ides⟩ := by
  have smallest : Text.showInt (-9223372036854775808) = "-9223372036854775808" := by
    decide +kernel
  have capitals : Sample.uuid.toString.toUpper = "01234567-89AB-CDEF-0123-456789ABCDEF" := by
    decide +kernel
  have date : Sample.ides.toString = "-0043-03-15" := by decide +kernel
  obtain ⟨_, agree, integers, _, _⟩ := literals_mean_the_same "id"
  obtain ⟨_, agreeCode, _, uuids, _⟩ := literals_mean_the_same "code"
  obtain ⟨_, agreeDay, _, _, days⟩ := literals_mean_the_same "day"
  refine ⟨?_, ?_, ?_⟩
  · have accepted := integers (-9223372036854775808) (by decide)
    rw [smallest] at accepted
    exact ((agree .number _ _ rfl).2.2 rfl).2.1 accepted
  · have accepted := (uuids Sample.uuid).2.2 _ (uuids Sample.uuid).2.1
    rw [capitals] at accepted
    exact (agreeCode .uuid _ _ rfl).2.1.1 accepted
  · have accepted := (days Sample.ides (by decide +kernel)).1
    rw [date] at accepted
    exact ((agreeDay .dateonly _ _ rfl).2.2 rfl).1.1 accepted

end Backoffice
