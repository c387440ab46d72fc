import Backoffice.Sql.Select

/-!
# Truth of formulas

SQL has three truth values.  A comparison with null is unknown, `AND` and `OR` go
by what the known side decides, and a statement keeps a row only where its
condition is true.

*Readings.*  A `Reading` is what a row answers to the tests a formula is made of.
It leaves open how values compare and how patterns match.  `Formula.truth` follows
the connectives.

*Clauses.*  A `Clause` is a formula whose conditions are not opened: `always`,
`never`, `and` and `or` over conditions of some type.  Its truth is known from the
truth of its conditions, whatever they are, and `Clause.truth_formula` says that
writing the conditions out and reading them gives the same.
-/

namespace Backoffice.Sql

/-- A truth value of SQL. -/
inductive Truth where
  | yes
  | no
  | unknown
deriving DecidableEq, Repr

namespace Truth

/-- The truth of a test that always has an answer. -/
def ofBool : Bool → Truth
  | true => yes
  | false => no

/-- `NOT`. -/
def not : Truth → Truth
  | yes => no
  | no => yes
  | unknown => unknown

/-- `AND`. -/
def and : Truth → Truth → Truth
  | yes, t => t
  | no, _ => no
  | unknown, no => no
  | unknown, _ => unknown

/-- `OR`. -/
def or : Truth → Truth → Truth
  | yes, _ => yes
  | no, t => t
  | unknown, yes => yes
  | unknown, _ => unknown

/-- `AND` over a list, true of no values. -/
def all (values : List Truth) : Truth := values.foldr and yes

/-- `OR` over a list, false of no values. -/
def any (values : List Truth) : Truth := values.foldr or no

@[simp] theorem ofBool_eq_yes (b : Bool) : ofBool b = yes ↔ b = true := by
  cases b <;> simp [ofBool]

@[simp] theorem ofBool_ne_unknown (b : Bool) : ofBool b ≠ unknown := by
  cases b <;> simp [ofBool]

/-- Where both have an answer, two truths are equal when they are true alike. -/
theorem eq_of_yes_iff {s t : Truth} (s_known : s ≠ unknown) (t_known : t ≠ unknown)
    (alike : s = yes ↔ t = yes) : s = t := by
  cases s <;> cases t <;> simp_all

@[simp] theorem yes_and (t : Truth) : yes.and t = t := rfl

@[simp] theorem and_yes (t : Truth) : t.and yes = t := by cases t <;> rfl

@[simp] theorem no_or (t : Truth) : no.or t = t := rfl

@[simp] theorem or_no (t : Truth) : t.or no = t := by cases t <;> rfl

theorem and_assoc (s t u : Truth) : (s.and t).and u = s.and (t.and u) := by
  cases s <;> cases t <;> cases u <;> rfl

theorem or_assoc (s t u : Truth) : (s.or t).or u = s.or (t.or u) := by
  cases s <;> cases t <;> cases u <;> rfl

/-- A conjunction is true when both sides are. -/
@[simp] theorem and_eq_yes (s t : Truth) : s.and t = yes ↔ s = yes ∧ t = yes := by
  cases s <;> cases t <;> simp [and]

@[simp] theorem all_nil : all [] = yes := rfl

@[simp] theorem all_cons (t : Truth) (rest : List Truth) : all (t :: rest) = t.and (all rest) :=
  rfl

@[simp] theorem any_nil : any [] = no := rfl

@[simp] theorem any_cons (t : Truth) (rest : List Truth) : any (t :: rest) = t.or (any rest) :=
  rfl

theorem foldl_and (start : Truth) (values : List Truth) :
    values.foldl and start = start.and (all values) := by
  induction values generalizing start with
  | nil => simp
  | cons t rest ih => rw [List.foldl_cons, ih, all_cons, and_assoc]

theorem foldl_or (start : Truth) (values : List Truth) :
    values.foldl or start = start.or (any values) := by
  induction values generalizing start with
  | nil => simp
  | cons t rest ih => rw [List.foldl_cons, ih, any_cons, or_assoc]

end Truth

/-! ## Readings -/

/-- What a row answers to the tests of a formula. -/
structure Reading where
  /-- Whether a column is null.  This always has an answer. -/
  isNull : ColumnRef → Bool
  /-- How a comparison with a value comes out. -/
  compare : Comparison → Subject → Value → Truth
  /-- Whether a text fits a pattern. -/
  fits : MatchStyle → Subject → String → Truth

/-- What a formula says of a row. -/
def Formula.truth (r : Reading) : Formula → Truth
  | always => .yes
  | never => .no
  | compare comparison subject value => r.compare comparison subject value
  | isNull ref => .ofBool (r.isNull ref)
  | isNotNull ref => .ofBool (!r.isNull ref)
  | fits style subject pattern => r.fits style subject pattern
  | .not formula => (formula.truth r).not
  | .and left right => (left.truth r).and (right.truth r)
  | .or left right => (left.truth r).or (right.truth r)

/-- Whether a statement keeps a row: there is no condition, or it is true. -/
def Select.Keeps (s : Select) (r : Reading) : Prop :=
  ∀ condition ∈ s.condition, condition.truth r = .yes

/-- One more condition keeps those rows of the others it is true of. -/
theorem Select.keeps_restrict (s : Select) (formula : Formula) (r : Reading) :
    (s.restrict formula).Keeps r ↔ s.Keeps r ∧ formula.truth r = .yes := by
  unfold Select.Keeps Select.restrict
  cases s.condition with
  | none => simp
  | some condition => simp [Formula.truth]

/-! ## Clauses -/

/-- A formula over conditions that are not opened. -/
inductive Clause (α : Type) where
  /-- True of every row. -/
  | always
  /-- True of no row. -/
  | never
  /-- A single condition. -/
  | entry (condition : α)
  | and (left right : Clause α)
  | or (left right : Clause α)

namespace Clause

variable {α : Type}

/-- The clause with its conditions written out. -/
def formula (write : α → Formula) : Clause α → Formula
  | always => .always
  | never => .never
  | entry condition => write condition
  | and left right => .and (left.formula write) (right.formula write)
  | or left right => .or (left.formula write) (right.formula write)

/-- The truth of a clause, given that of its conditions. -/
def truth (value : α → Truth) : Clause α → Truth
  | always => .yes
  | never => .no
  | entry condition => value condition
  | and left right => (left.truth value).and (right.truth value)
  | or left right => (left.truth value).or (right.truth value)

/-- The conjunction of clauses, from the left. -/
def all : List (Clause α) → Clause α
  | [] => always
  | first :: rest => rest.foldl and first

/-- The disjunction of clauses, from the left. -/
def any : List (Clause α) → Clause α
  | [] => never
  | first :: rest => rest.foldl or first

/-- A written clause is as true as its written conditions make it. -/
theorem truth_formula (write : α → Formula) (r : Reading) (c : Clause α) :
    (c.formula write).truth r = c.truth fun condition => (write condition).truth r := by
  induction c with
  | always => rfl
  | never => rfl
  | entry condition => rfl
  | and left right left_ih right_ih => simp only [formula, truth, Formula.truth, left_ih, right_ih]
  | or left right left_ih right_ih => simp only [formula, truth, Formula.truth, left_ih, right_ih]

/-- Writing a conjunction out gives the conjunction of the written parts. -/
@[simp] theorem formula_all (write : α → Formula) (clauses : List (Clause α)) :
    (all clauses).formula write = .all (clauses.map (formula write)) := by
  cases clauses with
  | nil => rfl
  | cons first rest =>
      rw [List.map_cons, Formula.all, List.foldl_map]
      exact (List.foldl_hom (formula write) fun _ _ => rfl).symm

/-- Writing a disjunction out gives the disjunction of the written parts. -/
@[simp] theorem formula_any (write : α → Formula) (clauses : List (Clause α)) :
    (any clauses).formula write = .any (clauses.map (formula write)) := by
  cases clauses with
  | nil => rfl
  | cons first rest =>
      rw [List.map_cons, Formula.any, List.foldl_map]
      exact (List.foldl_hom (formula write) fun _ _ => rfl).symm

/-- A conjunction from the left is the `AND` of its parts. -/
@[simp] theorem truth_all (value : α → Truth) (clauses : List (Clause α)) :
    (all clauses).truth value = .all (clauses.map (truth value)) := by
  cases clauses with
  | nil => rfl
  | cons first rest =>
      rw [List.map_cons, Truth.all_cons, ← Truth.foldl_and, List.foldl_map]
      exact (List.foldl_hom (truth value) fun _ _ => rfl).symm

/-- A disjunction from the left is the `OR` of its parts. -/
@[simp] theorem truth_any (value : α → Truth) (clauses : List (Clause α)) :
    (any clauses).truth value = .any (clauses.map (truth value)) := by
  cases clauses with
  | nil => rfl
  | cons first rest =>
      rw [List.map_cons, Truth.any_cons, ← Truth.foldl_or, List.foldl_map]
      exact (List.foldl_hom (truth value) fun _ _ => rfl).symm

end Clause

end Backoffice.Sql
