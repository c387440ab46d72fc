import Backoffice.Proofs.Calendar.Slots
import Backoffice.Proofs.Sample
import Backoffice.Proofs.Sql.Figures
import Backoffice.Proofs.Sql.Templates
import Backoffice.Statistics.Line

/-!
# One slot in every dialect

The databases group a line by a term that each dialect writes in its own way, and all compute
the start of the slot (`startOfSlot`).

* `postgres` and `mysql` divide, round down and multiply again.
* `sqlite` subtracts how far into the slot a second is.  Before 1970 the remainder of a second is
  negative or zero, so the slot is added and the remainder taken once more
  (`sub_remainder_eq_startOfSlot`).

A database reads the written term as the one that is meant here.
-/

namespace Backoffice

namespace Sql

open Text (digits)

/-! ## The terms -/

namespace Term

/-- How far into its slot a second is, from a remainder with the sign of the dividend. -/
def intoSlot (second : Term) : Term :=
  .operation .modulo
    (.group (.operation .plus (.group (.operation .modulo second (.number slotSeconds)))
      (.number slotSeconds)))
    (.number slotSeconds)

/-- The start of a slot from a quotient rounded down. -/
def roundedSlot (floor : String) (second : Term) : Term :=
  .operation .times (.call floor (.operation .divide second (.number slotSeconds)))
    (.number slotSeconds)

/-- A term as a whole number. -/
def asWhole (d : Dialect) (t : Term) : Term := .pair "CAST" t .typed (.word d.wholeType)

end Term

/-- The term of the slot of a column. -/
def Dialect.slotTerm (d : Dialect) (ref : ColumnRef) : Term :=
  match d with
  | .sqlite =>
      let second := (d.secondTerm ref).asWhole d
      .group (.operation .minus second second.intoSlot)
  | .postgres => ((d.secondTerm ref).roundedSlot "floor").asWhole d
  | .mysql => ((d.secondTerm ref).roundedSlot "FLOOR").asWhole d

theorem Dialect.slotTerm_spelled (d : Dialect) (ref : ColumnRef) :
    (d.slotTerm ref).isSpelled = true := by
  cases d <;> rfl

theorem Dialect.slotTerm_grouped (d : Dialect) (ref : ColumnRef) :
    (d.slotTerm ref).isGrouped = true := by
  cases d <;> rfl

/-- The templates with the column in their places are the text of the term. -/
theorem Dialect.slotText_eq (d : Dialect) (ref : ColumnRef) :
    d.slotText (ref.text d) = (d.slotTerm ref).text d := by
  have width : digits slotSeconds = ['9', '0', '0'] := by decide
  cases d with
  | sqlite =>
      let second := (secondTerm .sqlite ref).asWhole .sqlite
      have isSecond : ofTemplate .sqlite "CAST(strftime('%s', ?) AS INTEGER)" [ref.text .sqlite] =
          second.text .sqlite := by
        refine (@ofTemplate_eq .sqlite _ "CAST(strftime('%s', ".toList [") AS INTEGER)".toList]
          [ref.text .sqlite] (by decide) rfl).trans ?_
        simp [second, secondTerm, wholeType, Term.asWhole, Term.text, Separator.text, doubled]
      rw [slotText, isSecond]
      refine (@ofTemplate_eq .sqlite _ "(".toList [" - ((".toList, " % 900) + 900) % 900)".toList]
        [second.text .sqlite, second.text .sqlite] (by decide) rfl).trans ?_
      simp [slotTerm, second, Term.intoSlot, Term.text, Sign.char, width]
  | postgres =>
      refine (@ofTemplate_eq .postgres _ "CAST(floor(extract(epoch FROM ".toList
        [") / 900) * 900 AS BIGINT)".toList] [ref.text .postgres] (by decide) rfl).trans ?_
      simp [slotTerm, secondTerm, wholeType, Term.asWhole, Term.roundedSlot, Term.text, Sign.char,
        Separator.text, width]
  | mysql =>
      refine (@ofTemplate_eq .mysql _ "CAST(FLOOR(UNIX_TIMESTAMP(".toList
        [") / 900) * 900 AS SIGNED)".toList] [ref.text .mysql] (by decide) rfl).trans ?_
      simp [slotTerm, secondTerm, wholeType, Term.asWhole, Term.roundedSlot, Term.text, Sign.char,
        Separator.text, width]

/-! ## Remainders -/

/-- With a slot added, the remainder of a negative number is one of a positive number. -/
theorem sub_remainder_eq_startOfSlot (s : Int) :
    s - (s.tmod slotSeconds + slotSeconds).tmod slotSeconds = startOfSlot s := by
  have added : 0 ≤ s.tmod slotSeconds + slotSeconds := by
    have := Int.lt_tmod_of_pos s (show (0 : Int) < slotSeconds by decide)
    omega
  have whole : (slotSeconds : Int) * s.tdiv slotSeconds + s.tmod slotSeconds = s :=
    Int.mul_tdiv_add_tmod s slotSeconds
  have same : (s.tmod slotSeconds + slotSeconds) % slotSeconds = s % slotSeconds := by
    rw [Int.add_emod_right]
    conv_rhs => rw [← whole, Int.mul_add_emod_self_left]
  rw [Int.tmod_eq_emod_of_nonneg added, same, startOfSlot_eq]
  have := Int.mul_ediv_add_emod s slotSeconds
  omega

/-! ## What the terms compute -/

section
variable {d : Dialect} {rounding : Rounding} {seconds : ColumnRef → Int} {second : Term} {s : Int}

theorem Term.value?_asWhole {t : Term} {f : Figure} (value : t.value? d rounding seconds = some f) :
    (t.asWhole d).value? d rounding seconds = f.whole? := by
  rw [asWhole, value?, if_pos rfl, value]
  rfl

theorem Term.value?_intoSlot (isSecond : second.value? d rounding seconds = some (.whole s)) :
    second.intoSlot.value? d rounding seconds =
      some (.whole ((s.tmod slotSeconds + slotSeconds).tmod slotSeconds)) := by
  have width : (number slotSeconds).value? d rounding seconds = some (.whole slotSeconds) := rfl
  have first : (operation .modulo second (number slotSeconds)).value? d rounding seconds =
      some (.whole (s.tmod slotSeconds)) := value?_operation .modulo isSecond width
  have added : (operation .plus (group (operation .modulo second (number slotSeconds)))
      (number slotSeconds)).value? d rounding seconds =
        some (.whole (s.tmod slotSeconds + slotSeconds)) := value?_operation .plus first width
  exact value?_operation .modulo added width

/-- A quotient that is a decimal is rounded down as the exact one is. -/
theorem Term.value?_roundedSlot {floor : String} (isFloor : floor = "floor" ∨ floor = "FLOOR")
    {f : Figure} (isSecond : second.value? d rounding seconds = some f)
    (divided : Sign.divide.apply? d rounding f (.whole slotSeconds) =
      some (.decimal (rounding.round (s / slotSeconds)))) :
    ((second.roundedSlot floor).asWhole d).value? d rounding seconds =
      some (.whole (startOfSlot s)) := by
  have width : (number slotSeconds).value? d rounding seconds = some (.whole slotSeconds) := rfl
  have quotient := (value?_operation .divide isSecond width).trans divided
  have down := value?_floor isFloor quotient
  rw [rounding.floor_round s (by decide) (by decide)] at down
  have start := value?_operation .times down width
  have product : Sign.times.apply? d rounding (.decimal ⌊(s / slotSeconds : ℚ)⌋)
      (.whole slotSeconds) = some (.decimal (startOfSlot s)) := by
    have commuted : (⌊(s / slotSeconds : ℚ)⌋ : ℚ) * (slotSeconds : Int) = startOfSlot s := by
      rw [startOfSlot, Int.cast_mul, mul_comm]
    rw [← commuted]
    rfl
  rw [roundedSlot, value?_asWhole (start.trans product), Figure.whole?_decimal]

theorem Dialect.value?_slotTerm (d : Dialect) (rounding : Rounding) (seconds : ColumnRef → Int)
    (ref : ColumnRef) :
    (d.slotTerm ref).value? d rounding seconds = some (.whole (startOfSlot (seconds ref))) := by
  have isSecond := Term.value?_secondTerm d rounding seconds ref
  cases d with
  | sqlite =>
      have isWhole := Term.value?_asWhole isSecond
      rw [secondFigure, Figure.whole?, Text.integer?_signedDigits, Option.map_some] at isWhole
      have start := Term.value?_operation .minus isWhole (Term.value?_intoSlot isWhole)
      rw [← sub_remainder_eq_startOfSlot]
      exact start
  | postgres => exact Term.value?_roundedSlot (.inl rfl) isSecond rfl
  | mysql => exact Term.value?_roundedSlot (.inr rfl) isSecond rfl

end

end Sql

open Sql

/-- Every dialect groups points of time by the starts of their slots.  Its written term is read
as the one meant, with the column in every place, and computes `900 · ⌊s / 900⌋` of the second
`s`, also before 1970.  That is what subtracting the corrected remainder gives. -/
theorem dialects_share_slots (d : Dialect) {date : ResolvedField} (timed : date.type ≠ .dateonly) :
    (Line.slot date).pieces d = [.text ((d.slotTerm date.ref).text d)] ∧
    readTerm? d ((d.slotTerm date.ref).text d) = some (d.slotTerm date.ref) ∧
    (∀ (rounding : Rounding) (seconds : ColumnRef → Int),
      (d.slotTerm date.ref).value? d rounding seconds =
        some (.whole (startOfSlot (seconds date.ref)))) ∧
    (∀ s : Int, s - (s.tmod slotSeconds + slotSeconds).tmod slotSeconds = startOfSlot s ∧
      (slotSeconds : Int) ∣ startOfSlot s ∧ s - slotSeconds < startOfSlot s ∧ startOfSlot s ≤ s) ∧
    ∀ s s' : Int, startOfSlot s = startOfSlot s' ↔
      ∃ k : Int, (slotSeconds * k ≤ s ∧ s < slotSeconds * (k + 1)) ∧
        slotSeconds * k ≤ s' ∧ s' < slotSeconds * (k + 1) := by
  have written : (Line.slot date).pieces d = [.text ((d.slotTerm date.ref).text d)] := by
    rw [Line.slot, if_neg timed, Output.pieces, d.slotText_eq]
  have read : readTerm? d ((d.slotTerm date.ref).text d) = some (d.slotTerm date.ref) :=
    readTerm?_text (d.slotTerm_spelled date.ref) (d.slotTerm_grouped date.ref)
  refine ⟨written, read, fun rounding seconds => d.value?_slotTerm rounding seconds date.ref,
    fun s => ⟨sub_remainder_eq_startOfSlot s, ?_, ?_⟩, startOfSlot_eq_iff⟩
  · rw [startOfSlot_eq]
    exact Int.dvd_mul_right _ _
  · rw [startOfSlot_eq, slotSeconds]
    omega

namespace Sample

/-- The slot of an article in `sqlite`. -/
def slotOfArticle : String :=
  "(CAST(strftime('%s', \"articles\".\"created_at\") AS INTEGER) - " ++
    "((CAST(strftime('%s', \"articles\".\"created_at\") AS INTEGER) % 900) + 900) % 900)"

/-- The last second of 1969 lies in the slot that starts a quarter of an hour before 1970. -/
theorem dialects_share_slots_before_1970 :
    (Line.slot createdAt).pieces .sqlite = [.word slotOfArticle] ∧
      (readTerm? .sqlite slotOfArticle.toList).bind (·.value? .sqlite .exact fun _ => -1) =
        some (.whole (-900)) := by
  have text : (Dialect.slotTerm .sqlite createdAt.ref).text .sqlite = slotOfArticle.toList := by
    decide +kernel
  obtain ⟨pieces, read, value, _⟩ := @dialects_share_slots .sqlite createdAt (by decide)
  rw [text] at pieces read
  refine ⟨pieces, ?_⟩
  rw [read, Option.bind_some, value, startOfSlot_eq]
  decide

end Sample

end Backoffice
