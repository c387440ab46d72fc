import Backoffice.Filter.Condition
import Backoffice.Filter.Predicate
import Backoffice.Listing.Record
import Backoffice.Proofs.Calendar.Reading
import Backoffice.Proofs.Number.Text
import Backoffice.Proofs.Uuid

/-!
# Key values and their texts

`Cell.Holds` tells which value equals a cell of a key column in a statement, and
`Cell.part` is the text that stands for the cell in a composite id.

Read as an operand of the field, the part gives the value back if the cell is legible
(`Cell.Holds.reads_part_iff`).  It is not when the value is too large for a signed
integer, no finite double, no declared value of an enum, or a day that a record shows
as its literal.

What stands before a hyphen of the part never gives the value
(`Cell.Holds.not_reads_before`).
-/

namespace Backoffice

open Sql (Value)

/-- The value that equals a cell of a column of a type. -/
inductive Cell.Holds : SemanticType → Cell → Value → Prop where
  | int {n : Int} (small : Text.isInt64 n = true) : Holds .number (.int (some n)) (.bigInt n)
  | bigInt {n : Int} (small : Text.isInt64 n = true) : Holds .number (.bigInt (some n)) (.bigInt n)
  | unsigned {n : Nat} (small : n < 2 ^ 63) : Holds .number (.bigUnsigned (some n)) (.bigInt n)
  | large {n : Nat} (large : 2 ^ 63 ≤ n) : Holds .number (.bigUnsigned (some n)) (.bigUnsigned n)
  | double {x : Double} : Holds .number (.double (some x)) (.double x)
  | text {s : String} : Holds .string (.text (some s)) (.text s)
  | enum {s : String} : Holds .enum (.text (some s)) (.text s)
  | uuid {s : String} {u : Uuid} (read : Uuid.read? s.toList = some u) :
      Holds .uuid (.text (some s)) (.uuid u)
  | instant {s : String} {t : Instant} (read : Instant.read? s.toList = some t) :
      Holds .date (.text (some s)) (.instant t)
  | dayText {s : String} {d : Day} (read : Day.read? s.toList = some d) :
      Holds .dateonly (.text (some s)) (.day d)
  | day {d : Day} : Holds .dateonly (.day (some d)) (.day d)

/-- A key cell is shown by a value that is no object. -/
theorem Cell.Holds.plain {type : SemanticType} {cell : Cell} {value : Value}
    (holds : cell.Holds type value) : cell.toJson.isObject = false := by
  cases holds with
  | @double x =>
      show (Json.ofDouble x).isObject = false
      rw [Json.ofDouble]
      split <;> rfl
  | _ => rfl

theorem Cell.Holds.supports {type : SemanticType} {cell : Cell} {value : Value}
    (holds : cell.Holds type value) : Operator.equals.supports type = true := by
  cases holds <;> rfl

/-- That a text, read as the operand of an equality on a field, gives a value.  On an
enum field the text has to be declared. -/
def Field.Reads (f : Field) (part : List Char) (value : Value) : Prop :=
  ∃ operand, Operand.ofText? f.type part = some operand ∧ operand.value? = some value ∧
    (f.type = .enum → (f.enumValues.getD []).contains (String.ofList part) = true)

/-- A text gives at most one value. -/
theorem Field.Reads.unique {f : Field} {part : List Char} {value value' : Value}
    (reads : f.Reads part value) (reads' : f.Reads part value') : value = value' := by
  obtain ⟨operand, read, isValue, _⟩ := reads
  obtain ⟨operand', read', isValue', _⟩ := reads'
  rw [read, Option.some.injEq] at read'
  subst read'
  rw [isValue, Option.some.injEq] at isValue'
  exact isValue'

/-! ## Numbers -/

section
variable {cs : List Char} {n : Int} {x : Double}

theorem Operand.number?_signedDigits (small : Text.isInt64 n = true) :
    Operand.number? (Text.signedDigits n) = some (.integer n) := by
  rw [Operand.number?, Text.int64?_signedDigits, if_pos small]

theorem Operand.number?_markedText (finite : x.isFinite = true) :
    Operand.number? x.markedText = some (.double x) := by
  rw [Operand.number?, x.int64?_markedText, Double.read?_markedText finite]
  rfl

/-- No number ends in the mark of a power. -/
theorem Operand.number?_of_mark (mantissa : List Char) :
    Operand.number? (mantissa ++ ['e']) = Option.none := by
  have noInteger : Text.int64? (mantissa ++ ['e']) = Option.none := by
    rw [Text.int64?, Decimal.integer?_of_mark]
    rfl
  rw [Operand.number?, noInteger, Double.read?_of_mark]
  rfl

end

/-! ## Parts of ids -/

/-- The text that stands for a cell in a composite id. -/
def Cell.part (cell : Cell) : List Char := (Record.idPart (some cell.toJson)).toList

section
variable (n : Int) (m : Nat) (x : Double) (s : String) (d : Day)

@[simp] theorem Cell.part_int : (Cell.int (some n)).part = Text.signedDigits n :=
  String.toList_ofList

@[simp] theorem Cell.part_bigInt : (Cell.bigInt (some n)).part = Text.signedDigits n :=
  String.toList_ofList

@[simp] theorem Cell.part_bigUnsigned : (Cell.bigUnsigned (some m)).part = Text.signedDigits m :=
  String.toList_ofList

theorem Cell.part_double (finite : x.isFinite = true) :
    (Cell.double (some x)).part = x.markedText := by
  have json : (Cell.double (some x)).toJson = .double x := by
    show Json.ofDouble x = .double x
    rw [Json.ofDouble, if_pos finite]
  rw [part, json]
  exact String.toList_ofList

theorem Cell.part_notFinite (notFinite : x.isFinite = false) :
    (Cell.double (some x)).part = ['n', 'u', 'l', 'l'] := by
  have json : (Cell.double (some x)).toJson = .null := by
    show Json.ofDouble x = .null
    rw [Json.ofDouble, notFinite]
    rfl
  rw [part, json]
  exact String.toList_ofList

@[simp] theorem Cell.part_text : (Cell.text (some s)).part = s.toList := rfl

@[simp] theorem Cell.part_day : (Cell.day (some d)).part = Sql.dayLiteral d :=
  String.toList_ofList

end

/-! ## Legible cells -/

/-- Whether the text of a key cell of a field gives its value back. -/
def Cell.isLegible (f : Field) : Cell → Bool
  | bigUnsigned (some n) => n < 2 ^ 63
  | double (some x) => x.isFinite
  | text (some s) => f.type ≠ .enum || (f.enumValues.getD []).contains s
  | day _ => false
  | _ => true

section
variable {f : Field} {part : List Char} {value : Value}

theorem Field.reads_iff (notEnum : f.type ≠ .enum) :
    f.Reads part value ↔
      ∃ operand, Operand.ofText? f.type part = some operand ∧ operand.value? = some value := by
  simp [Field.Reads, notEnum]

theorem Field.reads_number_iff (isNumber : f.type = .number) :
    f.Reads part value ↔
      ∃ operand, Operand.number? part = some operand ∧ operand.value? = some value := by
  rw [reads_iff (by simp [isNumber]), isNumber]
  rfl

theorem Field.reads_int (isNumber : f.type = .number) {n : Int} (small : Text.isInt64 n = true) :
    f.Reads (Text.signedDigits n) (.bigInt n) :=
  (reads_number_iff isNumber).2 ⟨.integer n, Operand.number?_signedDigits small, rfl⟩

/-- No operand is an unsigned value. -/
theorem Operand.value?_ne_bigUnsigned (operand : Operand) (n : Nat) :
    operand.value? ≠ some (.bigUnsigned n) := by
  cases operand <;> simp [Operand.value?]

/-- The part of a cell gives the value back where the cell is legible. -/
theorem Cell.Holds.reads_part_iff {cell : Cell} (holds : cell.Holds f.type value) :
    f.Reads cell.part value ↔ cell.isLegible f = true := by
  generalize isType : f.type = type at holds
  have notEnum : type ≠ .enum → f.type ≠ .enum := by rw [isType]; exact id
  cases holds with
  | int small =>
      rw [part_int]
      exact iff_of_true (Field.reads_int isType small) rfl
  | bigInt small =>
      rw [part_bigInt]
      exact iff_of_true (Field.reads_int isType small) rfl
  | @unsigned n small =>
      have small' : Text.isInt64 (n : Int) = true := Text.isInt64_iff.2 (by omega)
      rw [part_bigUnsigned]
      exact iff_of_true (Field.reads_int isType small') (by simpa [isLegible] using small)
  | @large n large =>
      refine iff_of_false ?_ (by simpa [isLegible] using large)
      rintro ⟨operand, _, isValue, _⟩
      exact operand.value?_ne_bigUnsigned n isValue
  | @double x =>
      rw [Field.reads_number_iff isType]
      cases finite : x.isFinite with
      | true =>
          rw [part_double x finite, Operand.number?_markedText finite]
          simp [Operand.value?, isLegible, finite]
      | false =>
          have noNumber : Operand.number? ['n', 'u', 'l', 'l'] = Option.none := rfl
          rw [part_notFinite x finite, noNumber]
          simp [isLegible, finite]
  | text =>
      rw [Field.reads_iff (notEnum (by decide)), isType]
      simp [Operand.ofText?, Operand.value?, isLegible, isType]
  | enum =>
      simp [Field.Reads, isType, Operand.ofText?, Operand.value?, isLegible]
  | uuid read =>
      rw [Field.reads_iff (notEnum (by decide)), isType]
      simp [Operand.ofText?, read, Operand.value?, isLegible, isType]
  | instant read =>
      rw [Field.reads_iff (notEnum (by decide)), isType]
      simp [Operand.ofText?, read, Operand.value?, isLegible, isType]
  | dayText read =>
      rw [Field.reads_iff (notEnum (by decide)), isType]
      simp [Operand.ofText?, read, Operand.value?, isLegible, isType]
  | @day d =>
      have noDay : Day.read? (Sql.dayLiteral d) = none := Day.read?_apostrophe _
      rw [Field.reads_iff (notEnum (by decide)), isType, part_day]
      simp [Operand.ofText?, noDay, isLegible]

end

/-! ## Parts cut at a hyphen -/

/-- Before a hyphen of an integer stands nothing. -/
theorem Text.before_hyphen_signedDigits {n : Int} {before after : List Char}
    (split : Text.signedDigits n = before ++ '-' :: after) : before = [] := by
  rw [Text.signedDigits] at split
  split at split
  next =>
    cases before with
    | nil => rfl
    | cons first others =>
        obtain ⟨_, inDigits⟩ := List.cons.inj split
        have := Text.isDigit_of_mem_digits (n := n.natAbs) (c := '-') (by rw [inDigits]; simp)
        cases this
  next =>
    have := Text.isDigit_of_mem_digits (n := n.natAbs) (c := '-') (by rw [split]; simp)
    cases this

section
variable {f : Field} {before after : List Char} {value : Value}

theorem Field.not_reads_of_number (isNumber : f.type = .number)
    (noNumber : Operand.number? before = none) : ¬ f.Reads before value := by
  rw [reads_number_iff isNumber, noNumber]
  simp

/-- A text that is not the whole of a text value is another value. -/
theorem Field.not_reads_text (isText : f.type = .string ∨ f.type = .enum) {s : String}
    (split : s.toList = before ++ '-' :: after) : ¬ f.Reads before (.text s) := by
  rintro ⟨operand, read, isValue, _⟩
  have isOperand : operand = .text (String.ofList before) := by
    rcases isText with isText | isText
    · rw [isText] at read
      exact (Option.some.inj read).symm
    · rw [isText] at read
      exact (Option.some.inj read).symm
  rw [isOperand] at isValue
  have same : String.ofList before = s := Value.text.inj (Option.some.inj isValue)
  rw [← same, String.toList_ofList] at split
  have := congrArg List.length split
  simp at this

/-- What stands before a hyphen of the part of a cell does not give its value. -/
theorem Cell.Holds.not_reads_before {cell : Cell} (holds : cell.Holds f.type value)
    (split : cell.part = before ++ '-' :: after) (noHyphen : '-' ∉ before) :
    ¬ f.Reads before value := by
  generalize isType : f.type = type at holds
  have noDay : Day.read? before = none := by
    cases read : Day.read? before with
    | none => rfl
    | some d => exact absurd (Day.hyphen_of_read? read) noHyphen
  have noInstant : Instant.read? before = none := by
    cases read : Instant.read? before with
    | none => rfl
    | some t => exact absurd (Instant.hyphen_of_read? read) noHyphen
  have ofInt : ∀ {n : Int}, Text.signedDigits n = before ++ '-' :: after →
      Operand.number? before = none := by
    intro n split
    rw [Text.before_hyphen_signedDigits split]
    rfl
  cases holds with
  | int small =>
      rw [part_int] at split
      exact Field.not_reads_of_number isType (ofInt split)
  | bigInt small =>
      rw [part_bigInt] at split
      exact Field.not_reads_of_number isType (ofInt split)
  | unsigned small =>
      rw [part_bigUnsigned] at split
      exact Field.not_reads_of_number isType (ofInt split)
  | large large =>
      rw [part_bigUnsigned] at split
      exact Field.not_reads_of_number isType (ofInt split)
  | @double x =>
      refine Field.not_reads_of_number isType ?_
      cases finite : x.isFinite with
      | true =>
          rw [part_double x finite] at split
          rcases Double.before_hyphen split noHyphen with rfl | ⟨mantissa, rfl⟩
          · rfl
          · exact Operand.number?_of_mark mantissa
      | false =>
          rw [part_notFinite x finite] at split
          have : '-' ∈ ['n', 'u', 'l', 'l'] := by
            rw [split]
            simp
          simp at this
  | text => exact Field.not_reads_text (.inl isType) split
  | enum => exact Field.not_reads_text (.inr isType) split
  | uuid read =>
      rw [part_text] at split
      rw [split] at read
      rw [Field.reads_iff (by simp [isType]), isType]
      rintro ⟨operand, readBefore, _⟩
      obtain ⟨u, isUuid, _⟩ := Option.map_eq_some_iff.1 readBefore
      exact Uuid.read?_before_hyphen read noHyphen isUuid
  | instant read =>
      rw [Field.reads_iff (by simp [isType]), isType]
      simp [Operand.ofText?, noInstant]
  | dayText read =>
      rw [Field.reads_iff (by simp [isType]), isType]
      simp [Operand.ofText?, noDay]
  | day =>
      rw [Field.reads_iff (by simp [isType]), isType]
      simp [Operand.ofText?, noDay]

end

end Backoffice
