import Backoffice.Sql.Statement

/-!
# Statements without their values

What is left of a statement when its condition is erased is everything but the values and
the patterns: the tables and columns, the operators, and how the parts of the condition are
joined.  The text with placeholders is written from nothing else (`Select.sql_erased`).
-/

namespace Backoffice.Sql

/-- The value in place of every other. -/
def Value.blank : Value := .text ""

namespace Formula

/-- The formula with blanks for its values and patterns. -/
def erased : Formula → Formula
  | always => always
  | never => never
  | compare comparison subject _ => compare comparison subject .blank
  | isNull ref => isNull ref
  | isNotNull ref => isNotNull ref
  | fits style subject _ => fits style subject ""
  | .not formula => .not formula.erased
  | .and left right => .and left.erased right.erased
  | .or left right => .or left.erased right.erased

/-- Folding formulas together keeps their structure. -/
theorem erased_foldl (join : Formula → Formula → Formula)
    (erased_join : ∀ left right, (join left right).erased = join left.erased right.erased)
    (first : Formula) (rest : List Formula) :
    (rest.foldl join first).erased = (rest.map erased).foldl join first.erased := by
  induction rest generalizing first with
  | nil => rfl
  | cons next rest ih =>
      rw [List.foldl_cons, ih, erased_join]
      rfl

theorem erased_all (formulas : List Formula) :
    (all formulas).erased = all (formulas.map erased) := by
  cases formulas with
  | nil => rfl
  | cons first rest => exact erased_foldl Formula.and (fun _ _ => rfl) first rest

theorem erased_any (formulas : List Formula) :
    (any formulas).erased = any (formulas.map erased) := by
  cases formulas with
  | nil => rfl
  | cons first rest => exact erased_foldl Formula.or (fun _ _ => rfl) first rest

end Formula

/-- The statement with blanks for the values and patterns of its condition. -/
def Select.erased (s : Select) : Select := { s with condition := s.condition.map Formula.erased }

/-- One more condition is erased on its own. -/
theorem Select.erased_restrict (s : Select) (formula : Formula) :
    (s.restrict formula).erased = s.erased.restrict formula.erased := by
  rw [restrict, restrict, erased, erased]
  cases s.condition with
  | none => rfl
  | some condition => rfl

/-! ## Written forms -/

namespace Piece

/-- The piece with a blank for its value. -/
def erased : Piece → Piece
  | text chars => text chars
  | value _ => value .blank

@[simp] theorem erased_word (s : String) : (word s).erased = word s := rfl

@[simp] theorem erased_value (v : Value) : (value v).erased = value .blank := rfl

@[simp] theorem erased_text (chars : List Char) : (text chars).erased = text chars := rfl

@[simp] theorem erased_erased (piece : Piece) : piece.erased.erased = piece.erased := by
  cases piece with
  | text => rfl
  | value => rfl

/-- A placeholder is the same for every value. -/
theorem withPlaceholders_erased (d : Dialect) (position : Nat) (pieces : List Piece) :
    withPlaceholders d position (pieces.map erased) = withPlaceholders d position pieces := by
  induction pieces generalizing position with
  | nil => rfl
  | cons piece rest ih =>
      cases piece with
      | text chars => simp [withPlaceholders, ih]
      | value v => simp [withPlaceholders, ih]

end Piece

@[simp] theorem Subject.map_erased_pieces (d : Dialect) (subject : Subject) :
    (subject.pieces d).map Piece.erased = subject.pieces d := by
  cases subject with
  | column => rfl
  | castToText => rfl

namespace Formula

variable (d : Dialect) (formula : Formula)

@[simp] theorem standsBare_erased : formula.erased.standsBare = formula.standsBare := by
  cases formula with
  | always | never | compare | isNull | isNotNull | fits | not | and | or => rfl

@[simp] theorem isConjunction_erased : formula.erased.isConjunction = formula.isConjunction := by
  cases formula with
  | always | never | compare | isNull | isNotNull | fits | not | and | or => rfl

@[simp] theorem isDisjunction_erased : formula.erased.isDisjunction = formula.isDisjunction := by
  cases formula with
  | always | never | compare | isNull | isNotNull | fits | not | and | or => rfl

@[simp] theorem map_erased_guarded (bare : Bool) (pieces : List Piece) :
    (guarded bare pieces).map Piece.erased = guarded bare (pieces.map Piece.erased) := by
  cases bare with
  | true => rfl
  | false => simp [guarded, Piece.parenthesized]

/-- An erased formula is written as the formula is, with blanks for the values. -/
theorem pieces_erased : formula.erased.pieces d = (formula.pieces d).map Piece.erased := by
  induction formula with
  | always | never | isNull | isNotNull => rfl
  | compare comparison subject value => simp [erased, pieces]
  | fits style subject pattern =>
      cases style with
      | folded | exact | binary | glob => simp [erased, pieces, MatchStyle.pieces, Value.blank]
  | not formula ih => simp [erased, pieces, ih]
  | and left right leftIh rightIh | or left right leftIh rightIh =>
      simp [erased, pieces, leftIh, rightIh]

end Formula

/-- The text with placeholders is that of the erased statement. -/
theorem Select.sql_erased (d : Dialect) (s : Select) :
    (s.erased.statement d).sql = (s.statement d).sql := by
  have samePieces : (s.erased.conditionPieces d).map Piece.erased =
      (s.conditionPieces d).map Piece.erased := by
    rw [conditionPieces, conditionPieces, erased]
    cases s.condition with
    | none => rfl
    | some condition => simp [Formula.pieces_erased]
  have sameText : (s.erased.pieces d).map Piece.erased = (s.pieces d).map Piece.erased := by
    simp only [pieces, List.map_append, samePieces]
    rfl
  rw [statement, statement, Piece.statement, Piece.statement]
  rw [← Piece.withPlaceholders_erased d 1 (s.erased.pieces d), sameText,
    Piece.withPlaceholders_erased]

end Backoffice.Sql
