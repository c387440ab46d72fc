import Backoffice.Proofs.Filter.TypedLiterals
import Backoffice.Proofs.Sql.Scales

/-!
# Relative times

`$24HoursBefore` and `$24HoursAfter` compare with the time 24 hours ago.  What counts is
the time that has passed: the boundary is so many seconds before now, whatever the clocks of a
zone show (`Instant.sinceEpoch_minusSeconds`).  The zone only says on which day the boundary
falls, and this matters on a field of days.  That day may be off the calendar, and then the
request stops.
-/

namespace Backoffice

open Sql (Comparison Engine JoinedRow Value)

/-! ## Elapsed time -/

/-- The nanoseconds from the start of 1970.  A leap second is counted together with the second
after it. -/
def Instant.sinceEpoch (t : Instant) : ℤ := t.seconds * 1000000000 + t.nanos

/-- Going back takes so many seconds from what has passed, also out of a leap second. -/
theorem Instant.sinceEpoch_minusSeconds (t : Instant) (seconds : ℕ) :
    (t.plusSeconds (-seconds)).sinceEpoch = t.sinceEpoch - seconds * 1000000000 := by
  rw [plusSeconds]
  split_ifs with leap forward
  · omega
  · simp only [sinceEpoch]
    omega
  · simp only [sinceEpoch]
    omega

/-- Outside of leap seconds the clock goes back by so many seconds. -/
theorem Instant.plusSeconds_of_lt {t : Instant} (regular : t.nanos < 1000000000) (seconds : ℤ) :
    t.plusSeconds seconds = ⟨t.seconds + seconds, t.nanos⟩ := by
  rw [plusSeconds, if_neg (by omega)]

/-! ## Relative filter values -/

/-- A side of a boundary in time. -/
inductive TimeSide where
  | before
  | after
deriving DecidableEq, Repr

namespace TimeSide

/-- The end of the filter value. -/
def word : TimeSide → List Char
  | before => Grammar.beforeWord
  | after => Grammar.afterWord

/-- The operator that the word chooses. -/
def operator : TimeSide → Operator
  | before => .hoursBefore
  | after => .hoursAfter

/-- How a time on this side compares with the boundary. -/
def comparison : TimeSide → Comparison
  | before => .less
  | after => .greater

/-- The filter value for this side of a number of hours ago, written by some digits. -/
def value (side : TimeSide) (digits : String) : String :=
  "$" ++ digits ++ String.ofList side.word

example : before.value "024" = "$024HoursBefore" := by decide

end TimeSide

namespace Grammar

variable {digits : List Char} {type : SemanticType} {side : TimeSide}

theorem toList_value (side : TimeSide) (digits : String) :
    (side.value digits).toList = '$' :: (digits.toList ++ side.word) := by
  simp [TimeSide.value]

theorem timeParts?_word (side : TimeSide) (digits : List Char) :
    timeParts? (digits ++ side.word) = some (side.operator, digits) := by
  rw [timeParts?]
  cases side with
  | before =>
      rw [TimeSide.word, Text.dropEnd?_eq_some_iff.2 rfl]
      rfl
  | after =>
      -- the two words end in different letters
      have notBefore : Text.dropEnd? beforeWord (digits ++ afterWord) = none := by
        rw [Option.eq_none_iff_forall_ne_some]
        intro rest isBefore
        have ends := congrArg List.getLast? (Text.dropEnd?_eq_some_iff.1 isBefore)
        simp [beforeWord, afterWord] at ends
      rw [TimeSide.word, notBefore, Text.dropEnd?_eq_some_iff.2 rfl]
      rfl

/-- Digits are a number of hours when they are one of 32 bits. -/
theorem hours?_of_digits (someDigit : digits ≠ []) (each : ∀ c ∈ digits, Text.isDigit c = true) :
    hours? digits =
      if Text.digitsValue digits < 2 ^ 32 then some (Text.digitsValue digits) else none := by
  rw [hours?, Text.natural?, if_pos ⟨someDigit, List.all_eq_true.2 each⟩, Option.filter_some,
    Text.word32, Nat.pow_eq]
  simp

/-- Digits between `$` and a word are no other word of the grammar. -/
theorem ne_word_of_digits (side : TimeSide) (someDigit : digits ≠ [])
    (each : ∀ c ∈ digits, Text.isDigit c = true) :
    ∀ word ∈ [nullWord, presentWord, blankWord], '$' :: (digits ++ side.word) ≠ word := by
  obtain ⟨first, rest, rfl⟩ := List.exists_cons_of_ne_nil someDigit
  have digit : Text.isDigit first = true := each first List.mem_cons_self
  intro word isWord same
  rw [← same] at isWord
  simp only [nullWord, presentWord, blankWord, List.mem_cons, List.cons_append,
    List.cons.injEq, List.not_mem_nil, or_false] at isWord
  rcases isWord with ⟨isMark, _⟩ | ⟨_, rfl, _⟩ | ⟨_, rfl, _⟩
  · cases isMark
  · cases digit
  · cases digit

theorem relativeTime?_of_digits (side : TimeSide) (someDigit : digits ≠ [])
    (each : ∀ c ∈ digits, Text.isDigit c = true) :
    relativeTime? ('$' :: (digits ++ side.word)) =
      if Text.digitsValue digits < 2 ^ 32 then some (side.operator, digits) else none := by
  have start : Text.dropStart? ['$'] ('$' :: (digits ++ side.word)) = some (digits ++ side.word) :=
    Text.dropStart?_eq_some_iff.2 rfl
  rw [relativeTime?, start, Option.bind_some, timeParts?_word, Option.filter_some,
    hours?_of_digits someDigit each]
  split <;> rfl

/-- A relative time chooses its side when its hours are a number of 32 bits.  Otherwise the whole
text is to be equal. -/
theorem classify_of_digits (side : TimeSide) (someDigit : digits ≠ [])
    (each : ∀ c ∈ digits, Text.isDigit c = true) (temporal : type.isTemporal = true) :
    classify type ('$' :: (digits ++ side.word)) =
      if Text.digitsValue digits < 2 ^ 32 then (side.operator, digits)
      else (.equals, '$' :: (digits ++ side.word)) := by
  have unsigned : ∀ sign ∈ TextForm.signs, ('$' :: (digits ++ side.word)).head? ≠ some sign := by
    simp [TextForm.signs]
  have closed : ('$' :: (digits ++ side.word)).getLast? ≠ some '*' := by
    cases side <;> simp [TimeSide.word, beforeWord, afterWord, List.getLast?_cons]
  have notBool : type ≠ .boolean := by
    rintro rfl
    cases temporal
  have notWord := ne_word_of_digits side someDigit each
  rw [classify_of_unclosed unsigned closed]
  simp only [classifyWord, notBool, false_and, if_false]
  rw [if_neg (notWord _ (by simp)), if_neg (notWord _ (by simp)), if_neg (notWord _ (by simp)),
    relativeTime?_of_digits side someDigit each]
  split <;> rfl

end Grammar

/-! ## Reading and compiling -/

/-- A text is made of the digits of a number of hours, any leading zeros included. -/
structure IsHours (digits : String) (hours : ℕ) : Prop where
  some_digit : digits ≠ ""
  each : ∀ c ∈ digits.toList, Text.isDigit c = true
  value : Text.digitsValue digits.toList = hours

/-- The instant some hours ago. -/
def Instant.hoursAgo (now : Instant) (hours : ℕ) : Instant := now.plusSeconds (-(hours * 3600))

theorem Instant.sinceEpoch_hoursAgo (now : Instant) (hours : ℕ) :
    (now.hoursAgo hours).sinceEpoch = now.sinceEpoch - hours * 3600 * 1000000000 := by
  have := now.sinceEpoch_minusSeconds (hours * 3600)
  push_cast at this
  exact this

theorem Instant.hoursAgo_of_lt {now : Instant} (regular : now.nanos < 1000000000) (hours : ℕ) :
    now.hoursAgo hours = ⟨now.seconds - hours * 3600, now.nanos⟩ :=
  plusSeconds_of_lt regular _

section
variable {digits path : String} {hours : ℕ} {type : SemanticType} {side : TimeSide}

theorem TimeSide.supports (temporal : type.isTemporal = true) :
    side.operator.supports type = true := by
  cases side with
  | before => exact temporal
  | after => exact temporal

/-- A relative time is read as its hours, unless they are too many. -/
theorem Condition.parse_relative (isHours : IsHours digits hours)
    (temporal : type.isTemporal = true) :
    Condition.parse path (side.value digits) type =
      if hours < 2 ^ 32 then .ok ⟨path, side.value digits, side.operator, .hours hours⟩
      else .error (.typeMismatch path (side.value digits) type) := by
  obtain ⟨some_digit, each, rfl⟩ := isHours
  have someDigit : digits.toList ≠ [] := mt String.toList_eq_nil_iff.1 some_digit
  have chosen := Grammar.classify_of_digits side someDigit each temporal
  rw [← Grammar.toList_value] at chosen
  split
  next small =>
    rw [if_pos small] at chosen
    refine Condition.parse_of_classify chosen (TimeSide.supports temporal) ?_
    have hours := Grammar.hours?_of_digits someDigit each
    rw [if_pos small] at hours
    cases side with
    | before | after =>
        rw [TimeSide.operator, Grammar.operand?, hours]
        rfl
  next large =>
    rw [if_neg large] at chosen
    rw [Condition.parse, chosen]
    have literal : type.hasLiterals = true := by
      cases type with
      | date | dateonly => rfl
      | _ => cases temporal
    refine Condition.assemble_eq_error rfl (SemanticType.supports_equality literal).1 ?_
    -- no time has a `$`
    rw [Option.eq_none_iff_forall_ne_some]
    intro operand read
    have plain := Operand.isPlain_of_ofText? literal read
    rw [Grammar.toList_value] at plain
    exact plain.not_mem (c := '$') (by decide) List.mem_cons_self

end

namespace ResolvedField

variable {f : ResolvedField} {ctx : Context} {path raw : String} {side : TimeSide} {hours : ℕ}

/-- Hours compile to a comparison with the boundary, if there is one. -/
theorem compile_relative (temporal : f.type.isTemporal = true) :
    f.compile ctx ⟨path, raw, side.operator, .hours hours⟩ =
      if (ctx.now.hoursAgo hours).inCalendar then
        (f.boundary ctx (ctx.now.hoursAgo hours)).map fun value =>
          f.predicate ⟨path, raw, side.operator, .hours hours⟩ (f.compares side.comparison value)
      else .error (.request (.conditionOutOfRange raw)) := by
  have isFormula : f.formula ctx ⟨path, raw, side.operator, .hours hours⟩ =
      f.hoursFormula ctx side.comparison ⟨path, raw, side.operator, .hours hours⟩ := by
    cases side <;> rfl
  have boundary : ctx.now.hoursBefore? hours =
      if (ctx.now.hoursAgo hours).inCalendar then some (ctx.now.hoursAgo hours) else none := rfl
  rw [compile_of_supports (TimeSide.supports temporal), isFormula, hoursFormula]
  by_cases inside : (ctx.now.hoursAgo hours).inCalendar = true
  · rw [if_pos inside] at boundary ⊢
    simp only [boundary]
    cases f.boundary ctx (ctx.now.hoursAgo hours) with
    | ok => rfl
    | error => rfl
  · rw [if_neg inside] at boundary ⊢
    simp only [boundary]
    rfl

end ResolvedField

/-- What a relative time gives on a field: a comparison with its boundary, or a fault where its
hours are too many or the boundary is off the calendar. -/
theorem Context.compileRaw_relative {ctx : Context} {path digits : String} {hours : ℕ}
    {f : ResolvedField} (side : TimeSide) (resolved : ctx.resolve path = .ok f)
    (isHours : IsHours digits hours) (temporal : f.type.isTemporal = true) :
    ctx.compileRaw path (side.value digits) =
      if 2 ^ 32 ≤ hours then .error (.typeMismatch path (side.value digits) f.type)
      else if (ctx.now.hoursAgo hours).inCalendar then
        (f.boundary ctx (ctx.now.hoursAgo hours)).map fun value =>
          f.predicate ⟨path, side.value digits, side.operator, .hours hours⟩
            (f.compares side.comparison value)
      else .error (.request (.conditionOutOfRange (side.value digits))) := by
  show (ctx.resolve path >>= fun field =>
    Condition.parse path (side.value digits) field.type >>= field.compile ctx) = _
  rw [resolved]
  show Condition.parse path (side.value digits) f.type >>= f.compile ctx = _
  rw [Condition.parse_relative isHours temporal]
  by_cases large : 2 ^ 32 ≤ hours
  · rw [if_pos large, if_neg (not_lt.2 large)]
    rfl
  · rw [if_neg large, if_pos (not_le.1 large)]
    exact ResolvedField.compile_relative temporal

/-! ## Rows -/

/-- When an instant is, in a statement. -/
def Sql.Value.moment? : Value → Option ℤ
  | instant t => some t.sinceEpoch
  | _ => none

section
variable {V : Type} {e : Engine V} {t : e.Typing} {row : JoinedRow V} {ctx : Context}
  {path digits : String} {hours : ℕ} {f : ResolvedField} {p : Predicate}

/-- What compiles is a comparison with the boundary. -/
theorem Context.formula_of_compileRaw_relative {side : TimeSide}
    (resolved : ctx.resolve path = .ok f) (isHours : IsHours digits hours)
    (temporal : f.type.isTemporal = true)
    (compiled : ctx.compileRaw path (side.value digits) = .ok p) :
    ∃ value, f.boundary ctx (ctx.now.hoursAgo hours) = .ok value ∧
      p.formula = f.compares side.comparison value := by
  rw [ctx.compileRaw_relative side resolved isHours temporal] at compiled
  split_ifs at compiled
  obtain ⟨value, isBoundary, rfl⟩ := Except.map_eq_ok.1 compiled
  exact ⟨value, isBoundary, rfl⟩

/-- A row after a boundary is after every earlier one. -/
theorem ResolvedField.after_of_le (onDate : f.type = .date) (typed : f.IsTyped ctx.dialect t row)
    (timeline : t.Scale .instant Value.moment?) {one two : Instant}
    (earlier : two.sinceEpoch ≤ one.sinceEpoch)
    (holds : (f.compares .greater (.instant one)).truth (e.reading row) = .yes) :
    (f.compares .greater (.instant two)).truth (e.reading row) = .yes := by
  have kinds : ∀ v, row.value f.ref = some v → t.kind v = .instant := fun v isValue => by
    rw [kind_value typed (by simp [onDate]) isValue, onDate]
    rfl
  rw [compares, Sql.Formula.truth_compare_of_scale timeline kinds rfl rfl] at holds ⊢
  obtain ⟨v, isValue, isAfter⟩ := holds
  refine ⟨v, isValue, ?_⟩
  simp only [Comparison.holds, beq_iff_eq, compare_gt_iff_gt] at isAfter ⊢
  omega

/-- A boundary is of the kind of the field. -/
theorem ResolvedField.kind_boundary (temporal : f.type.isTemporal = true) {instant : Instant}
    {value : Value} (isBoundary : f.boundary ctx instant = .ok value) :
    value.kind = f.type.kind := by
  rw [boundary] at isBoundary
  split at isBoundary
  next onDay =>
    obtain ⟨d, _, rfl⟩ := Except.map_eq_ok.1 isBoundary
    rw [onDay]
    rfl
  next other =>
    cases isBoundary
    cases type : f.type with
    | date => rfl
    | dateonly => exact absurd type other
    | _ =>
        rw [type] at temporal
        cases temporal

/-- No row is on both sides of a boundary. -/
theorem ResolvedField.not_before_and_after (typed : f.IsTyped ctx.dialect t row) {value : Value}
    (isKind : value.kind = f.type.kind) (notEnum : f.type ≠ .enum) :
    ¬ ((f.compares .less value).truth (e.reading row) = .yes ∧
      (f.compares .greater value).truth (e.reading row) = .yes) := by
  rintro ⟨before, after⟩
  have counted := Sql.Formula.count_equal_less_greater t (.column f.ref) value
    fun v (isValue : row.value f.ref = some v) =>
      (kind_value typed notEnum isValue).trans isKind.symm
  rw [compares] at before after
  rw [before, after] at counted
  -- two of the three are true, and at most one may be
  have two : ∀ first : Sql.Truth, 2 ≤ [first, .yes, .yes].count .yes := by
    intro first
    cases first <;> decide
  have := two ((Sql.Formula.compare .equal (.column f.ref) value).truth (e.reading row))
  split at counted <;> omega

end

/-- Relative times measure elapsed time.  For a present instant and a number of hours, written by
digits of any length, there is one boundary, exactly so many hours before now, for every zone,
field and side.  A field of points of time is compared with it, and a field of days with the
local day in it.  The filter value is a fault exactly where the hours have more than 32 bits, or
else the boundary is off the calendar.  Where only its local day is off the calendar, a field of
days stops the request.

In a database that compares points of time by when they are, more hours keep more rows after the
boundary; and no row, of a field of either type, is both before and after the same boundary. -/
theorem relative_times_measure_elapsed_time (now : Instant) {digits : String} {hours : ℕ}
    (isHours : IsHours digits hours) :
    (∃ boundary : Instant,
      boundary.sinceEpoch = now.sinceEpoch - hours * 3600 * 1000000000 ∧
      (now.nanos < 1000000000 → boundary = ⟨now.seconds - hours * 3600, now.nanos⟩) ∧
      ∀ (ctx : Context) (path : String) (f : ResolvedField) (side : TimeSide),
        ctx.now = now → ctx.resolve path = .ok f →
        let day := (ctx.zone.localTime boundary).day
        let gives (found : Except Error Value) : Prop :=
          ctx.compileRaw path (side.value digits) =
            if 2 ^ 32 ≤ hours then .error (.typeMismatch path (side.value digits) f.type)
            else if boundary.inCalendar then
              found.map fun value =>
                f.predicate ⟨path, side.value digits, side.operator, .hours hours⟩
                  (.compare side.comparison (.column f.ref) value)
            else .error (.request (.conditionOutOfRange (side.value digits)))
        (f.type = .date → gives (.ok (.instant boundary))) ∧
        (f.type = .dateonly →
          gives (if day.inCalendar then .ok (.day day) else .error .stopped))) ∧
    ∀ {V : Type} {e : Engine V} (t : e.Typing) (row : JoinedRow V) (ctx : Context) (path : String)
        (f : ResolvedField) (digits' : String) (hours' : ℕ) (p q : Predicate),
      f.IsTyped ctx.dialect t row → ctx.resolve path = .ok f → IsHours digits' hours' →
      (hours ≤ hours' → f.type = .date → ∀ _timeline : t.Scale .instant Value.moment?,
        ctx.compileRaw path (TimeSide.after.value digits) = .ok p →
        ctx.compileRaw path (TimeSide.after.value digits') = .ok q →
        p.formula.truth (e.reading row) = .yes → q.formula.truth (e.reading row) = .yes) ∧
      (hours = hours' → f.type.isTemporal = true →
        ctx.compileRaw path (TimeSide.before.value digits) = .ok p →
        ctx.compileRaw path (TimeSide.after.value digits') = .ok q →
        ¬ (p.formula.truth (e.reading row) = .yes ∧ q.formula.truth (e.reading row) = .yes)) := by
  constructor
  · refine ⟨now.hoursAgo hours, now.sinceEpoch_hoursAgo hours,
      fun regular => Instant.hoursAgo_of_lt regular hours, ?_⟩
    rintro ctx path f side rfl resolved day gives
    constructor
    · intro onDate
      have temporal : f.type.isTemporal = true := by rw [onDate]; rfl
      have compiled := ctx.compileRaw_relative side resolved isHours temporal
      rwa [ResolvedField.boundary_of_date onDate] at compiled
    · intro onDay
      have temporal : f.type.isTemporal = true := by rw [onDay]; rfl
      have compiled := ctx.compileRaw_relative side resolved isHours temporal
      rwa [ResolvedField.boundary_of_dateonly onDay] at compiled
  · intro V e t row ctx path f digits' hours' p q typed resolved isHours'
    constructor
    · intro fewer onDate timeline isP isQ holds
      have temporal : f.type.isTemporal = true := by rw [onDate]; rfl
      obtain ⟨_, isBoundary, isFormula⟩ :=
        ctx.formula_of_compileRaw_relative resolved isHours temporal isP
      obtain ⟨_, isBoundary', isFormula'⟩ :=
        ctx.formula_of_compileRaw_relative resolved isHours' temporal isQ
      rw [ResolvedField.boundary_of_date onDate] at isBoundary isBoundary'
      cases isBoundary
      cases isBoundary'
      rw [isFormula] at holds
      rw [isFormula']
      refine ResolvedField.after_of_le onDate typed timeline ?_ holds
      rw [Instant.sinceEpoch_hoursAgo, Instant.sinceEpoch_hoursAgo]
      omega
    · rintro rfl temporal isP isQ
      obtain ⟨value, isBoundary, isFormula⟩ :=
        ctx.formula_of_compileRaw_relative resolved isHours temporal isP
      obtain ⟨value', isBoundary', isFormula'⟩ :=
        ctx.formula_of_compileRaw_relative resolved isHours' temporal isQ
      cases isBoundary.symm.trans isBoundary'
      rw [isFormula, isFormula']
      refine ResolvedField.not_before_and_after typed
        (ResolvedField.kind_boundary temporal isBoundary) ?_
      intro isEnum
      rw [isEnum] at temporal
      cases temporal

namespace Sample

/-- Visits, each at a point of time and on a day. -/
def visit : Declaration where
  name := "visit"
  table := "visits"
  columns :=
    [(Column.named "id" .integer).asPrimaryKey, Column.named "arrival" .timestamp,
     Column.named "day" .date]

/-- Apia at the end of 2011, where the 30th of December was left out. -/
def apia : Zone := ⟨"Pacific/Apia", -36000, [⟨1325239200, 50400⟩]⟩

/-- A request about visits at noon of the 31st. -/
def visits : Context :=
  { articles with collection := visit.toCollection, zone := apia, now := ⟨1325282400, 0⟩ }

/-- When a visit began. -/
def arrival : ResolvedField where
  path := "arrival"
  association := none
  table := "visits"
  field := (Column.named "arrival" .timestamp).field?.get rfl

/-- The day of a visit. -/
def visitDay : ResolvedField where
  path := "day"
  association := none
  table := "visits"
  field := (Column.named "day" .date).field?.get rfl

/-- Points of time in their order. -/
def momentOrder (v w : Value) : Ordering :=
  match w.moment? with
  | some moment => compare (v.moment?.getD 0) moment
  | none => if v = w then .eq else .lt

/-- A database in which each point of time has its place. -/
def timeline : (Engine.typingOfOrder momentOrder).Scale .instant Value.moment? where
  place v := v.moment?.getD 0
  order_eq _ isMoment := by simp only [Engine.typingOfOrder, momentOrder, isMoment]

/-- A visit that began half an hour before noon. -/
def lateVisit : JoinedRow Value :=
  JoinedRow.single "visits" fun _ => some (.instant ⟨1325280600, 0⟩)

theorem isTyped_lateVisit :
    arrival.IsTyped visits.dialect (Engine.typingOfOrder momentOrder) lateVisit := by
  rintro v ⟨⟩
  exact .inl rfl

theorem isHours_of_all {digits : String} (someDigit : digits ≠ "")
    (each : digits.toList.all Text.isDigit = true) :
    IsHours digits (Text.digitsValue digits.toList) :=
  ⟨someDigit, List.all_eq_true.1 each, rfl⟩

/-- That a visit began before or after a second, asked for by hours. -/
def beganBeside (side : TimeSide) (digits : String) (hours : ℕ) (second : ℤ) : Predicate :=
  arrival.predicate ⟨"arrival", side.value digits, side.operator, .hours hours⟩
    (.compare side.comparison (.column arrival.ref) (.instant ⟨second, 0⟩))

/-- One day before noon of the 31st it was noon of the 29th.  Who came half an hour ago came
after one hour ago, so also after one day ago, and not before one hour ago. -/
theorem relative_times_measure_elapsed_time_of_visits :
    visits.compileRaw "day" "$024HoursAfter" =
        .ok (visitDay.predicate ⟨"day", "$024HoursAfter", .hoursAfter, .hours 24⟩
          (.compare .greater (.column ⟨"visits", "day"⟩) (.day (Day.ofDate ⟨2011, 12, 29⟩)))) ∧
      (beganBeside .after "024" 24 1325196000).formula.truth
        ((Engine.ofOrder momentOrder).reading lateVisit) = .yes ∧
      (beganBeside .before "01" 1 1325278800).formula.truth
        ((Engine.ofOrder momentOrder).reading lateVisit) ≠ .yes := by
  have oneDay : IsHours "024" 24 := isHours_of_all (by decide) (by decide)
  have oneHour : IsHours "1" 1 := isHours_of_all (by decide) (by decide)
  have oneHour' : IsHours "01" 1 := isHours_of_all (by decide) (by decide)
  have afterHour : visits.compileRaw "arrival" (TimeSide.after.value "1") =
      .ok (beganBeside .after "1" 1 1325278800) := by decide +kernel
  have isLate : (beganBeside .after "1" 1 1325278800).formula.truth
      ((Engine.ofOrder momentOrder).reading lateVisit) = .yes := by decide +kernel
  refine ⟨?_, ?_, fun isBefore => ?_⟩
  · obtain ⟨boundary, _, regular, compiled⟩ :=
      (relative_times_measure_elapsed_time visits.now oneDay).1
    have isDay := (compiled visits "day" visitDay .after rfl rfl).2 rfl
    rw [regular (by decide)] at isDay
    refine isDay.trans ?_
    decide +kernel
  · have within := (relative_times_measure_elapsed_time visits.now oneHour).2
      (Engine.typingOfOrder momentOrder) lateVisit visits "arrival" arrival "024" 24
    exact (within _ _ isTyped_lateVisit rfl oneDay).1 (by decide) rfl timeline afterHour
      (by decide +kernel) isLate
  · have within := (relative_times_measure_elapsed_time visits.now oneHour').2
      (Engine.typingOfOrder momentOrder) lateVisit visits "arrival" arrival "1" 1
    exact (within _ _ isTyped_lateVisit rfl oneHour).2 rfl rfl (by decide +kernel) afterHour
      ⟨isBefore, isLate⟩

end Sample

end Backoffice
