import Backoffice.Proofs.Filter.Legality

/-!
# Filter values on text fields

What a client may write on a text field, and what it asks for.  A `TextForm` is one of the
ways to write a filter value, with the text in it.  Signs, wildcards and words overlap, so a
form is not always read as what it is meant for: `TextForm.IsFree` says when nothing else
takes it first.

A filter value is accepted exactly when it has a free form, and it has one such form only
(`Condition.parse_text_eq_ok`).  So a client that wants a text to be compared as it stands
can tell from the text alone whether it may write it.
-/

namespace Backoffice

/-! ## Forms -/

/-- A way to write a filter value on a text field. -/
inductive TextForm where
  | equals (text : String)
  | notEquals (text : String)
  | contains (text : String)
  | notContains (text : String)
  | startsWith (text : String)
  | endsWith (text : String)
  | isNull
  | isNotNull
  | isPresent
  | isBlank
deriving DecidableEq, Repr

namespace TextForm

/-- The characters that choose an operator at the start of a filter value. -/
def signs : List Char := ['!', '>', '<', '*']

/-- A text does not start with a sign. -/
def IsUnsigned (text : String) : Prop := ∀ sign ∈ signs, text.toList.head? ≠ some sign

/-- A text ends with a wildcard. -/
def IsOpen (text : String) : Prop := text.toList.getLast? = some '*'

/-- A text is a number of hours before or after now: digits of a number of 32 bits between
`$` and one of two words. -/
def IsRelativeTime (text : String) : Prop :=
  ∃ digits : List Char, digits ≠ [] ∧ (∀ c ∈ digits, Text.isDigit c = true) ∧
    Text.digitsValue digits < Text.word32 ∧
    (text = "$" ++ String.ofList digits ++ "HoursBefore" ∨
      text = "$" ++ String.ofList digits ++ "HoursAfter")

/-- The filter value. -/
def value : TextForm → String
  | equals text => text
  | notEquals text => "!" ++ text
  | contains text => "*" ++ text ++ "*"
  | notContains text => "!*" ++ text ++ "*"
  | startsWith text => text ++ "*"
  | endsWith text => "*" ++ text
  | isNull => "null"
  | isNotNull => "!null"
  | isPresent => "$present"
  | isBlank => "$blank"

/-- The characters of the filter value. -/
def chars : TextForm → List Char
  | equals text => text.toList
  | notEquals text => '!' :: text.toList
  | contains text => '*' :: text.toList ++ ['*']
  | notContains text => '!' :: '*' :: text.toList ++ ['*']
  | startsWith text => text.toList ++ ['*']
  | endsWith text => '*' :: text.toList
  | isNull => Grammar.nullWord
  | isNotNull => '!' :: Grammar.nullWord
  | isPresent => Grammar.presentWord
  | isBlank => Grammar.blankWord

theorem toList_value (form : TextForm) : form.value.toList = form.chars := by
  cases form with
  | equals | isNull | isNotNull | isPresent | isBlank => rfl
  | notEquals | contains | notContains | startsWith | endsWith => simp [value, chars]

/-- No other form takes the filter value first. -/
def IsFree : TextForm → Prop
  | equals text =>
      IsUnsigned text ∧ ¬ IsOpen text ∧ text ∉ ["null", "$present", "$blank"] ∧
        ¬ IsRelativeTime text
  | notEquals text =>
      text ≠ "null" ∧ ¬ (2 ≤ text.length ∧ text.toList.head? = some '*' ∧ IsOpen text)
  | startsWith text => text ≠ "" ∧ IsUnsigned text
  | endsWith text => ¬ IsOpen text
  | contains _ | notContains _ | isNull | isNotNull | isPresent | isBlank => True

/-- What the form asks for. -/
def operator : TextForm → Operator
  | equals _ => .equals
  | notEquals _ => .notEquals
  | contains _ => .contains
  | notContains _ => .notContains
  | startsWith _ => .startsWith
  | endsWith _ => .endsWith
  | isNull => .isNull
  | isNotNull => .isNotNull
  | isPresent => .isPresent
  | isBlank => .isBlank

theorem supports_operator (form : TextForm) : form.operator.supports .string = true := by
  cases form <;> rfl

/-- The text that the field is held against, unless the form is a word. -/
def operand : TextForm → Operand
  | equals text | notEquals text | contains text | notContains text | startsWith text
  | endsWith text => .text text
  | isNull | isNotNull | isPresent | isBlank => .none

/-- The condition that the form stands for. -/
def condition (form : TextForm) (field : String) : Condition :=
  ⟨field, form.value, form.operator, form.operand⟩

/-- Forms that stand for one condition are the same. -/
theorem eq_of_condition {form other : TextForm} {field : String}
    (same : form.condition field = other.condition field) : form = other := by
  have operators : form.operator = other.operator := congrArg Condition.operator same
  have operands : form.operand = other.operand := congrArg Condition.operand same
  cases form <;> cases other <;> cases operators <;> cases operands <;> rfl

end TextForm

/-! ## Starts and ends -/

namespace Grammar

variable {cs inner : List Char} {type : SemanticType}

theorem betweenWildcards?_eq_some :
    betweenWildcards? cs = some inner ↔ cs = '*' :: inner ++ ['*'] := by
  rw [betweenWildcards?, Option.bind_eq_some_iff]
  constructor
  · rintro ⟨rest, start, ending⟩
    rw [Text.dropStart?_eq_some_iff.1 start, Text.dropEnd?_eq_some_iff.1 ending]
    rfl
  · rintro rfl
    exact ⟨inner ++ ['*'], Text.dropStart?_eq_some_iff.2 rfl, Text.dropEnd?_eq_some_iff.2 rfl⟩


/-- A text between wildcards has two characters or more, with a wildcard at both ends. -/
theorem exists_betweenWildcards? :
    (∃ inner, betweenWildcards? cs = some inner) ↔
      2 ≤ cs.length ∧ cs.head? = some '*' ∧ cs.getLast? = some '*' := by
  simp only [betweenWildcards?_eq_some]
  constructor
  · rintro ⟨inner, rfl⟩
    exact ⟨by simp, rfl, List.getLast?_concat⟩
  · rintro ⟨long, first, last⟩
    cases cs with
    | nil => cases first
    | cons c rest =>
        cases Option.some.inj first
        cases rest with
        | nil => simp at long
        | cons d rest =>
            rw [List.getLast?_cons_cons] at last
            obtain ⟨inner, split⟩ := List.getLast?_eq_some_iff.1 last
            exact ⟨inner, by rw [split, List.cons_append]⟩

theorem dropEnd?_wildcard_eq_none :
    Text.dropEnd? ['*'] cs = none ↔ cs.getLast? ≠ some '*' := by
  rw [Option.eq_none_iff_forall_ne_some, Ne, List.getLast?_eq_some_iff, not_exists]
  exact forall_congr' fun rest => not_congr Text.dropEnd?_eq_some_iff

theorem dropStart?_wildcard_eq_none :
    Text.dropStart? ['*'] cs = none ↔ cs.head? ≠ some '*' := by
  cases cs with
  | nil => simp [Text.dropStart?]
  | cons c rest =>
      rcases eq_or_ne c '*' with rfl | isOther
      · simp [Text.dropStart?]
      · simp [Text.dropStart?, isOther, isOther.symm]

/-! ## Relative times -/

theorem isSome_hours? :
    (hours? cs).isSome = true ↔
      cs ≠ [] ∧ (∀ c ∈ cs, Text.isDigit c = true) ∧ Text.digitsValue cs < Text.word32 := by
  rw [hours?, Text.natural?, Option.isSome_iff_exists]
  split
  next digits =>
    simp only [Option.filter_eq_some_iff, Option.some.injEq, decide_eq_true_eq]
    rw [List.all_eq_true] at digits
    constructor
    · rintro ⟨_, rfl, small⟩
      exact ⟨digits.1, digits.2, small⟩
    · rintro ⟨_, _, small⟩
      exact ⟨_, rfl, small⟩
  next noDigits =>
    rw [List.all_eq_true] at noDigits
    refine iff_of_false (by simp) fun digits => noDigits ⟨digits.1, digits.2.1⟩

theorem exists_timeParts? :
    (∃ parts, timeParts? cs = some parts ∧ (hours? parts.2).isSome = true) ↔
      ∃ digits, (hours? digits).isSome = true ∧
        (cs = digits ++ beforeWord ∨ cs = digits ++ afterWord) := by
  rw [timeParts?]
  constructor
  · rintro ⟨parts, isParts, counts⟩
    split at isParts
    next digits isBefore =>
      cases isParts
      exact ⟨digits, counts, .inl (Text.dropEnd?_eq_some_iff.1 isBefore)⟩
    next =>
      obtain ⟨digits, isAfter, rfl⟩ := Option.map_eq_some_iff.1 isParts
      exact ⟨digits, counts, .inr (Text.dropEnd?_eq_some_iff.1 isAfter)⟩
  · rintro ⟨digits, counts, rfl | rfl⟩
    · rw [Text.dropEnd?_eq_some_iff.2 rfl]
      exact ⟨_, rfl, counts⟩
    · -- the two words end in different letters
      have notBefore : Text.dropEnd? beforeWord (digits ++ afterWord) = none := by
        rw [Option.eq_none_iff_forall_ne_some]
        intro rest isBefore
        have ends := congrArg List.getLast? (Text.dropEnd?_eq_some_iff.1 isBefore)
        simp [beforeWord, afterWord] at ends
      rw [notBefore, Text.dropEnd?_eq_some_iff.2 rfl]
      exact ⟨_, rfl, counts⟩

/-- A text reads as a relative time when it is one. -/
theorem isSome_relativeTime? {text : String} :
    (relativeTime? text.toList).isSome = true ↔ TextForm.IsRelativeTime text := by
  have ofParts : (relativeTime? text.toList).isSome = true ↔
      ∃ rest, text.toList = '$' :: rest ∧
        ∃ parts, timeParts? rest = some parts ∧ (hours? parts.2).isSome = true := by
    rw [relativeTime?, Option.isSome_iff_exists]
    simp only [Option.filter_eq_some_iff, Option.bind_eq_some_iff, Text.dropStart?_eq_some_iff]
    constructor
    · rintro ⟨parts, ⟨rest, split, isParts⟩, counts⟩
      exact ⟨rest, split, parts, isParts, counts⟩
    · rintro ⟨rest, split, parts, isParts, counts⟩
      exact ⟨parts, ⟨rest, split, isParts⟩, counts⟩
  simp only [ofParts, exists_timeParts?, TextForm.IsRelativeTime]
  simp only [isSome_hours?, ← String.toList_inj, String.toList_append]
  constructor
  · rintro ⟨rest, split, digits, counts, rfl | rfl⟩
    · exact ⟨digits, counts.1, counts.2.1, counts.2.2, .inl (by simpa [beforeWord] using split)⟩
    · exact ⟨digits, counts.1, counts.2.1, counts.2.2, .inr (by simpa [afterWord] using split)⟩
  · rintro ⟨digits, some, each, small, split | split⟩
    · exact ⟨digits ++ beforeWord, by simpa [beforeWord] using split, digits,
        ⟨some, each, small⟩, .inl rfl⟩
    · exact ⟨digits ++ afterWord, by simpa [afterWord] using split, digits,
        ⟨some, each, small⟩, .inr rfl⟩

end Grammar

namespace TextForm

instance decidableIsUnsigned (text : String) : Decidable (IsUnsigned text) :=
  List.decidableBAll (fun sign => text.toList.head? ≠ some sign) signs

instance decidableIsOpen (text : String) : Decidable (IsOpen text) :=
  inferInstanceAs (Decidable (text.toList.getLast? = some '*'))

instance decidableIsRelativeTime (text : String) : Decidable (IsRelativeTime text) :=
  decidable_of_iff _ Grammar.isSome_relativeTime?

instance decidableIsFree : (form : TextForm) → Decidable form.IsFree
  | equals text => inferInstanceAs (Decidable (IsUnsigned text ∧ ¬ IsOpen text ∧
      text ∉ ["null", "$present", "$blank"] ∧ ¬ IsRelativeTime text))
  | notEquals text => inferInstanceAs (Decidable (text ≠ "null" ∧
      ¬ (2 ≤ text.length ∧ text.toList.head? = some '*' ∧ IsOpen text)))
  | startsWith text => inferInstanceAs (Decidable (text ≠ "" ∧ IsUnsigned text))
  | endsWith text => inferInstanceAs (Decidable (¬ IsOpen text))
  | contains _ | notContains _ | isNull | isNotNull | isPresent | isBlank => .isTrue trivial

end TextForm

namespace Grammar

variable {cs : List Char} {type : SemanticType}

/-! ## Reading forms -/

/-- Without a sign in front, only wildcards at the end and words are left. -/
theorem classify_of_unsigned (unsigned : ∀ sign ∈ TextForm.signs, cs.head? ≠ some sign) :
    classify type cs = classifyPlain type cs := by
  unfold classify
  split
  next => exact absurd rfl (unsigned '!' (by decide))
  next => exact absurd rfl (unsigned '>' (by decide))
  next => exact absurd rfl (unsigned '<' (by decide))
  next => rfl

theorem betweenWildcards?_eq_none_of_head? (head : cs.head? ≠ some '*') :
    betweenWildcards? cs = none := by
  rw [betweenWildcards?, dropStart?_wildcard_eq_none.2 head, Option.bind_none]

/-- Without a wildcard at the end either, only words are left. -/
theorem classify_of_unclosed (unsigned : ∀ sign ∈ TextForm.signs, cs.head? ≠ some sign)
    (closed : cs.getLast? ≠ some '*') : classify type cs = classifyWord type cs := by
  have head := unsigned '*' (by decide)
  rw [classify_of_unsigned unsigned, classifyPlain, betweenWildcards?_eq_none_of_head? head,
    dropStart?_wildcard_eq_none.2 head, dropEnd?_wildcard_eq_none.2 closed]

/-- A free form is read as what it stands for. -/
theorem classify_value {form : TextForm} (free : form.IsFree) :
    ∃ rest, classify .string form.value.toList = (form.operator, rest) ∧
      operand? form.operator .string rest = some form.operand := by
  rw [TextForm.toList_value]
  cases form with
  | equals text =>
      obtain ⟨unsigned, closed, notWord, notTime⟩ := free
      have noTime : relativeTime? text.toList = none := by
        rwa [← isSome_relativeTime?, Bool.not_eq_true, Option.isSome_eq_false_iff,
          Option.isNone_iff_eq_none] at notTime
      have notWords : text.toList ≠ nullWord ∧ text.toList ≠ presentWord ∧
          text.toList ≠ blankWord := by
        simpa [← String.toList_inj, nullWord, presentWord, blankWord] using notWord
      refine ⟨text.toList, ?_, congrArg (some ∘ Operand.text) String.ofList_toList⟩
      show classify .string text.toList = _
      rw [classify_of_unclosed unsigned closed]
      simp [classifyWord, notWords, noTime, TextForm.operator]
  | notEquals text =>
      obtain ⟨notNull, notBetween⟩ := free
      have bare : betweenWildcards? text.toList = none := by
        rw [Option.eq_none_iff_forall_ne_some]
        intro inner isBetween
        exact notBetween (exists_betweenWildcards?.1 ⟨inner, isBetween⟩)
      have notWord : text.toList ≠ nullWord := by
        simpa [← String.toList_inj, nullWord] using notNull
      refine ⟨text.toList, ?_, congrArg (some ∘ Operand.text) String.ofList_toList⟩
      show classifyNegated .string text.toList = _
      rw [classifyNegated, bare]
      simp [notWord, TextForm.operator]
  | contains text =>
      have between : betweenWildcards? ('*' :: text.toList ++ ['*']) = some text.toList :=
        betweenWildcards?_eq_some.2 rfl
      refine ⟨text.toList, ?_, congrArg (some ∘ Operand.text) String.ofList_toList⟩
      show classifyPlain .string ('*' :: text.toList ++ ['*']) = _
      rw [classifyPlain, between]
      rfl
  | notContains text =>
      have between : betweenWildcards? ('*' :: text.toList ++ ['*']) = some text.toList :=
        betweenWildcards?_eq_some.2 rfl
      refine ⟨text.toList, ?_, congrArg (some ∘ Operand.text) String.ofList_toList⟩
      show classifyNegated .string ('*' :: text.toList ++ ['*']) = _
      rw [classifyNegated, between]
      rfl
  | startsWith text =>
      obtain ⟨notEmpty, unsigned⟩ := free
      have sameHead : (text.toList ++ ['*']).head? = text.toList.head? := by
        cases split : text.toList with
        | nil => exact absurd (String.toList_eq_nil_iff.1 split) notEmpty
        | cons => rfl
      rw [TextForm.IsUnsigned, ← sameHead] at unsigned
      have head := unsigned '*' (by decide)
      refine ⟨text.toList, ?_, congrArg (some ∘ Operand.text) String.ofList_toList⟩
      show classify .string (text.toList ++ ['*']) = _
      rw [classify_of_unsigned unsigned, classifyPlain, betweenWildcards?_eq_none_of_head? head,
        dropStart?_wildcard_eq_none.2 head, Text.dropEnd?_eq_some_iff.2 rfl]
      rfl
  | endsWith text =>
      have bare : betweenWildcards? ('*' :: text.toList) = none :=
        dropEnd?_wildcard_eq_none.2 free
      refine ⟨text.toList, ?_, congrArg (some ∘ Operand.text) String.ofList_toList⟩
      show classifyPlain .string ('*' :: text.toList) = _
      rw [classifyPlain, bare]
      rfl
  | isNull | isNotNull | isPresent | isBlank => exact ⟨_, rfl, rfl⟩

/-! ## Forms of filter values -/

variable {operator : Operator} {rest : List Char}

theorem exists_form_of_classifyNegated (chosen : classifyNegated .string cs = (operator, rest)) :
    ∃ form : TextForm, form.IsFree ∧ form.chars = '!' :: cs ∧ form.operator = operator ∧
      operand? operator .string rest = some form.operand := by
  rw [classifyNegated] at chosen
  split at chosen
  next between =>
    cases chosen
    rw [betweenWildcards?_eq_some.1 between]
    exact ⟨.notContains (String.ofList rest), trivial, by simp [TextForm.chars], rfl, rfl⟩
  next bare =>
    split_ifs at chosen with isNull isTrue isFalse
    · cases chosen
      rw [isNull]
      exact ⟨.isNotNull, trivial, rfl, rfl, rfl⟩
    · cases isTrue.1
    · cases isFalse.1
    · cases chosen
      refine ⟨.notEquals (String.ofList cs), ⟨?_, ?_⟩, by simp [TextForm.chars], rfl, rfl⟩
      · simpa [← String.toList_inj, nullWord] using isNull
      · intro between
        rw [← String.length_toList, TextForm.IsOpen, String.toList_ofList,
          ← exists_betweenWildcards?, bare] at between
        simp at between

theorem exists_form_of_classifyWord (unsigned : ∀ sign ∈ TextForm.signs, cs.head? ≠ some sign)
    (closed : cs.getLast? ≠ some '*') (chosen : classifyWord .string cs = (operator, rest))
    (supported : operator.supports .string = true) :
    ∃ form : TextForm, form.IsFree ∧ form.chars = cs ∧ form.operator = operator ∧
      operand? operator .string rest = some form.operand := by
  rw [classifyWord] at chosen
  split_ifs at chosen with isNull isTrue isFalse isPresent isBlank
  · cases chosen
    rw [isNull]
    exact ⟨.isNull, trivial, rfl, rfl, rfl⟩
  · cases isTrue.1
  · cases isFalse.1
  · cases chosen
    rw [isPresent]
    exact ⟨.isPresent, trivial, rfl, rfl, rfl⟩
  · cases chosen
    rw [isBlank]
    exact ⟨.isBlank, trivial, rfl, rfl, rfl⟩
  · cases isTime : relativeTime? cs with
    | some parts =>
        -- a relative time is refused on a text field
        rw [isTime, Option.getD_some] at chosen
        have relative := isRelative_of_relativeTime? isTime
        rw [chosen] at relative
        cases operator with
        | hoursBefore | hoursAfter => cases supported
        | _ => cases relative
    | none =>
        rw [isTime] at chosen
        cases chosen
        refine ⟨.equals (String.ofList cs), ⟨?_, ?_, ?_, ?_⟩, by simp [TextForm.chars], rfl, rfl⟩
        · rwa [TextForm.IsUnsigned, String.toList_ofList]
        · rwa [TextForm.IsOpen, String.toList_ofList]
        · simpa [← String.toList_inj, nullWord, presentWord, blankWord] using
            ⟨isNull, isPresent, isBlank⟩
        · rw [← isSome_relativeTime?, String.toList_ofList, isTime]
          exact Bool.false_ne_true

theorem unsigned_of_head? (noSign : ∀ sign ∈ ['!', '>', '<'], cs.head? ≠ some sign)
    (head : cs.head? ≠ some '*') : ∀ sign ∈ TextForm.signs, cs.head? ≠ some sign := by
  intro sign isSign
  rcases List.mem_append.1 (show sign ∈ ['!', '>', '<'] ++ ['*'] from isSign) with isFirst | isStar
  · exact noSign sign isFirst
  · rwa [List.mem_singleton.1 isStar]

theorem exists_form_of_classifyPlain (noSign : ∀ sign ∈ ['!', '>', '<'], cs.head? ≠ some sign)
    (chosen : classifyPlain .string cs = (operator, rest))
    (supported : operator.supports .string = true) :
    ∃ form : TextForm, form.IsFree ∧ form.chars = cs ∧ form.operator = operator ∧
      operand? operator .string rest = some form.operand := by
  rw [classifyPlain] at chosen
  split at chosen
  next between =>
    cases chosen
    rw [betweenWildcards?_eq_some.1 between]
    exact ⟨.contains (String.ofList rest), trivial, by simp [TextForm.chars], rfl, rfl⟩
  next bare start =>
    cases chosen
    rw [Text.dropStart?_eq_some_iff.1 start] at bare ⊢
    refine ⟨.endsWith (String.ofList rest), ?_, by simp [TextForm.chars], rfl, rfl⟩
    rw [TextForm.IsFree, TextForm.IsOpen, String.toList_ofList]
    exact dropEnd?_wildcard_eq_none.1 bare
  next notStart ending =>
    cases chosen
    have unsigned := unsigned_of_head? noSign (dropStart?_wildcard_eq_none.1 notStart)
    rw [Text.dropEnd?_eq_some_iff.1 ending] at unsigned ⊢
    refine ⟨.startsWith (String.ofList rest), ?_, by simp [TextForm.chars], rfl, rfl⟩
    cases rest with
    | nil => exact absurd rfl (unsigned '*' (by decide))
    | cons c rest =>
        exact ⟨by simp [← String.toList_inj], by rwa [TextForm.IsUnsigned, String.toList_ofList]⟩
  next notStart notEnding =>
    exact exists_form_of_classifyWord
      (unsigned_of_head? noSign (dropStart?_wildcard_eq_none.1 notStart))
      (dropEnd?_wildcard_eq_none.1 notEnding) chosen supported

/-- Where an operator may be asked of a text field, the filter value that chooses it has a free
form. -/
theorem exists_form_of_classify (chosen : classify .string cs = (operator, rest))
    (supported : operator.supports .string = true) :
    ∃ form : TextForm, form.IsFree ∧ form.chars = cs ∧ form.operator = operator ∧
      operand? operator .string rest = some form.operand := by
  unfold classify at chosen
  split at chosen
  next => exact exists_form_of_classifyNegated chosen
  next =>
    cases chosen
    cases supported
  next =>
    cases chosen
    cases supported
  next notNegated notGreater notLess =>
    refine exists_form_of_classifyPlain (fun sign isSign isHead => ?_) chosen supported
    obtain ⟨tail, rfl⟩ := List.head?_eq_some_iff.1 isHead
    rcases List.mem_cons.1 isSign with rfl | isSign
    · exact notNegated tail rfl
    · rcases List.mem_pair.1 isSign with rfl | rfl
      · exact notGreater tail rfl
      · exact notLess tail rfl

end Grammar

/-! ## Filter values -/

namespace Condition

variable {field raw : String} {c : Condition}

/-- A filter value is accepted on a text field when it has a free form, and asks for what the
form stands for. -/
theorem parse_text_eq_ok :
    parse field raw .string = .ok c ↔
      ∃ form : TextForm, form.IsFree ∧ form.value = raw ∧ form.condition field = c := by
  constructor
  · intro accepted
    obtain ⟨supported, operand, read, rfl⟩ := parse_eq_ok.1 accepted
    have chosen : Grammar.classify .string raw.toList =
        (Grammar.chosen .string raw, Grammar.rest .string raw) := rfl
    obtain ⟨form, free, chars, operator, isOperand⟩ :=
      Grammar.exists_form_of_classify chosen supported
    rw [isOperand] at read
    cases read
    have value : form.value = raw := String.toList_inj.1 ((form.toList_value).trans chars)
    exact ⟨form, free, value, by rw [TextForm.condition, value, operator]⟩
  · rintro ⟨form, free, rfl, rfl⟩
    obtain ⟨rest, chosen, read⟩ := Grammar.classify_value free
    exact parse_of_classify chosen form.supports_operator read

end Condition

/-- What a filter value asks of a text field can be told from its form alone.  A form is read
as what it stands for exactly when it is free; a filter value is accepted exactly when it has a
free form, and asks for what that form stands for; and no filter value has two free forms. -/
theorem text_values_have_forms (field : String) :
    (∀ form : TextForm,
      Condition.parse field form.value .string = .ok (form.condition field) ↔ form.IsFree) ∧
    (∀ raw c, Condition.parse field raw .string = .ok c ↔
      ∃ form : TextForm, form.IsFree ∧ form.value = raw ∧ form.condition field = c) ∧
    ∀ form other : TextForm, form.IsFree → other.IsFree → form.value = other.value →
      form = other := by
  refine ⟨fun form => ?_, fun raw c => Condition.parse_text_eq_ok, ?_⟩
  · rw [Condition.parse_text_eq_ok]
    constructor
    · rintro ⟨other, free, _, same⟩
      rwa [← TextForm.eq_of_condition same]
    · intro free
      exact ⟨form, free, rfl, rfl⟩
  · intro form other free otherFree same
    have read : Condition.parse field form.value .string = .ok (form.condition field) :=
      Condition.parse_text_eq_ok.2 ⟨form, free, rfl, rfl⟩
    have readOther : Condition.parse field form.value .string = .ok (other.condition field) :=
      Condition.parse_text_eq_ok.2 ⟨other, otherFree, same.symm, rfl⟩
    exact TextForm.eq_of_condition (Except.ok.inj (read.symm.trans readOther))

/-- The text `*` may be written after `!` and between wildcards, but not after a wildcard, where
it would be one itself; and `$` may start a text that only looks like a relative time. -/
theorem text_values_have_forms_of_titles :
    Condition.parse "title" "!*" .string = .ok ⟨"title", "!*", .notEquals, .text "*"⟩ ∧
    Condition.parse "title" "***" .string = .ok ⟨"title", "***", .contains, .text "*"⟩ ∧
    ¬ (TextForm.endsWith "**").IsFree ∧
    Condition.parse "title" "$4294967296HoursAfter" .string =
      .ok ⟨"title", "$4294967296HoursAfter", .equals, .text "$4294967296HoursAfter"⟩ ∧
    Condition.parse "title" "$5HoursAfter" .string ≠
      .ok ⟨"title", "$5HoursAfter", .equals, .text "$5HoursAfter"⟩ := by
  obtain ⟨asMeant, _, once⟩ := text_values_have_forms "title"
  refine ⟨(asMeant (.notEquals "*")).2 (by decide), (asMeant (.contains "*")).2 trivial,
    fun free => ?_, (asMeant (.equals "$4294967296HoursAfter")).2 (by decide),
    fun read => absurd ((asMeant (.equals "$5HoursAfter")).1 read) (by decide)⟩
  cases once (.endsWith "**") (.contains "*") free trivial rfl

end Backoffice
