import Backoffice.Proofs.Text.Numeral
import Backoffice.Proofs.Text.Pieces
import Backoffice.Sql.Template

/-!
# Filled templates

A template is a first part and, after each place, another one.  Filling it puts an expression
before each of the others (`Dialect.ofTemplate_eq`), in the dialect that numbers its places as in
those that do not.

The numbers need room: after a place there is no digit, else it would be read as one of its
number.
-/

namespace Backoffice.Sql

open Text (pieces digits digitsValue isDigit)

namespace Template

/-- A text with a separator before each part but the first. -/
def join (separator : Char) (first : List Char) (others : List (List Char)) : List Char :=
  first ++ others.flatMap (separator :: ·)

variable {separator : Char} {first : List Char} {others : List (List Char)}

theorem pieces_join (plain : separator ∉ first) (othersPlain : ∀ part ∈ others, separator ∉ part) :
    pieces separator (join separator first others) = (first, others) := by
  induction others generalizing first with
  | nil =>
      rw [join, List.flatMap_nil, List.append_nil]
      exact Text.pieces_of_not_mem plain
  | cons part rest ih =>
      obtain ⟨partPlain, restPlain⟩ := List.forall_mem_cons.1 othersPlain
      have joined : join separator first (part :: rest) =
          first ++ separator :: join separator part rest := by simp [join]
      rw [joined, Text.pieces_of_split plain, ih partPlain restPlain]

/-- Whether no digit is first in a text. -/
def startsPlain (part : List Char) : Bool := part.head?.all fun c => !isDigit c

/-- The number of a place leads to the expression at its position. -/
theorem fillPlace_digits {before after : List (List Char)} {expression part : List Char}
    (startsPlain : startsPlain part = true) :
    fillPlace (before ++ expression :: after) (digits (before.length + 1) ++ part) =
      expression ++ part := by
  have stop : ∀ c ∈ part.head?, isDigit c = false := by
    intro c isHead
    rw [Template.startsPlain, Option.mem_def.1 isHead] at startsPlain
    simpa using startsPlain
  obtain ⟨taken, dropped⟩ :=
    Text.takeWhile_digits part (Text.all_isDigit_digits (before.length + 1)) stop
  rw [fillPlace, taken, dropped, Text.digitsValue_digits, Nat.add_sub_cancel]
  simp

/-- Parts behind numbers that go on from one. -/
def behindNumbers (first : Nat) (parts : List (List Char)) : List (List Char) :=
  (parts.zipIdx first).map fun (part, position) => digits position ++ part

theorem behindNumbers_cons (first : Nat) (part : List Char) (parts : List (List Char)) :
    behindNumbers first (part :: parts) =
      (digits first ++ part) :: behindNumbers (first + 1) parts := rfl

theorem dollar_not_mem_behindNumbers {first : Nat} (plain : ∀ part ∈ others, '$' ∉ part) :
    ∀ part ∈ behindNumbers first others, '$' ∉ part := by
  intro part member
  obtain ⟨⟨text, position⟩, isPart, rfl⟩ := List.mem_map.1 member
  rw [List.mem_append, not_or]
  refine ⟨fun isDigit => ?_, plain text (List.fst_mem_of_mem_zipIdx isPart)⟩
  exact absurd (Text.isDigit_of_mem_digits isDigit) (by decide)

/-- Numbered places after some others take the expressions after theirs. -/
theorem flatMap_fillPlace {before expressions : List (List Char)}
    (plain : ∀ part ∈ others, startsPlain part = true) (each : expressions.length = others.length) :
    (behindNumbers (before.length + 1) others).flatMap (fillPlace (before ++ expressions)) =
      (expressions.zip others).flatMap fun (expression, part) => expression ++ part := by
  induction others generalizing before expressions with
  | nil => simp [behindNumbers]
  | cons part rest ih =>
      obtain ⟨expression, after, rfl⟩ := List.exists_cons_of_length_eq_add_one each
      obtain ⟨partPlain, restPlain⟩ := List.forall_mem_cons.1 plain
      have later : (behindNumbers (before.length + 1 + 1) rest).flatMap
          (fillPlace (before ++ expression :: after)) =
          (after.zip rest).flatMap fun (expression, part) => expression ++ part := by
        simpa using @ih (before ++ [expression]) after restPlain (Nat.succ.inj each)
      rw [behindNumbers_cons, List.flatMap_cons, List.zip_cons_cons, List.flatMap_cons,
        fillPlace_digits partPlain, later]

/-- Whether a template is a first part and others behind its places, and holds no other signs of
places and no digits behind one. -/
def isCut (template : String) (first : List Char) (others : List (List Char)) : Bool :=
  template.toList = join '?' first others &&
    (first :: others).all (fun part => '?' ∉ part && '$' ∉ part) &&
    others.all startsPlain

end Template

open Template

/-- A template is filled with one expression before each part but the first. -/
theorem Dialect.ofTemplate_eq (d : Dialect) {template : String} {first : List Char}
    {others expressions : List (List Char)} (isCut : isCut template first others = true)
    (each : expressions.length = others.length) :
    d.ofTemplate template expressions =
      first ++ (expressions.zip others).flatMap fun (expression, part) => expression ++ part := by
  simp only [Template.isCut, Bool.and_eq_true, decide_eq_true_eq, List.all_eq_true,
    List.forall_mem_cons] at isCut
  obtain ⟨⟨isTemplate, firstPlain, othersPlain⟩, undigited⟩ := isCut
  have cut : pieces '?' template.toList = (first, others) := by
    rw [isTemplate]
    exact pieces_join firstPlain.1 fun part member => (othersPlain part member).1
  have inTurn : fill expressions template.toList =
      first ++ (expressions.zip others).flatMap fun (expression, part) => expression ++ part := by
    rw [fill, cut]
  cases d with
  | sqlite | mysql => exact inTurn
  | postgres =>
      have isNumbered : numbered template.toList = join '$' first (behindNumbers 1 others) := by
        rw [numbered, cut, join, behindNumbers, List.flatMap_map]
        rfl
      have cutNumbers : pieces '$' (join '$' first (behindNumbers 1 others)) =
          (first, behindNumbers 1 others) :=
        pieces_join firstPlain.2
          (dollar_not_mem_behindNumbers fun part member => (othersPlain part member).2)
      rw [ofTemplate, isNumbered, fillNumbered, cutNumbers]
      exact congrArg (first ++ ·) (@flatMap_fillPlace others [] expressions undigited each)

end Backoffice.Sql
