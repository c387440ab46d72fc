import Backoffice.Proofs.Sql.Scope
import Backoffice.Proofs.Sql.Truth
import Mathlib.Data.List.Induction
import Mathlib.Logic.Function.Basic

/-!
# Statements over a database

What a statement gives, when the tables have rows.  How values compare, match and add up is
left to an `Engine`.

The joined rows start as the rows of the table that is read.  Each join puts a row of
another table beside them, once for every row in which its columns are equal, and a row of
nulls where there is none.  A null equals nothing.  So joins may multiply rows, but not
where one column of each join has no value twice: then every row has one joined row
(`Select.joinedRows_eq_map`).
-/

namespace Backoffice.Sql

variable {V : Type}

/-! ## Rows -/

/-- A row of a table: the value of each column, none for null. -/
abbrev TableRow (V : Type) := String → Option V

/-- The rows of the tables of a database. -/
abbrev Database (V : Type) := String → List (TableRow V)

/-- The rows that stand beside each other under the names a statement gives to tables. -/
abbrev JoinedRow (V : Type) := String → TableRow V

namespace TableRow

/-- A row of nothing but nulls. -/
def null : TableRow V := fun _ => none

end TableRow

namespace JoinedRow

/-- The row of a single table. -/
def single (table : String) (row : TableRow V) : JoinedRow V :=
  Function.update (fun _ => TableRow.null) table row

/-- The value of a column. -/
def value (row : JoinedRow V) (ref : ColumnRef) : Option V := row ref.table ref.column

end JoinedRow

/-- How a database treats values. -/
structure Engine (V : Type) where
  /-- Whether the values of two columns are equal. -/
  same : V → V → Bool
  compare : Comparison → V → Value → Truth
  /-- Whether a text fits a pattern. -/
  fits : MatchStyle → V → String → Truth
  asText : V → V
  /-- The sum of the values of a column. -/
  sum : List V → Option V
  slot : V → V

namespace Engine

/-- Equality of columns is symmetric and transitive. -/
structure IsEquality (e : Engine V) : Prop where
  symm : ∀ {v w}, e.same v w = true → e.same w v = true
  trans : ∀ {u v w}, e.same u v = true → e.same v w = true → e.same u w = true

/-- Whether two columns are equal.  A null equals nothing. -/
def equal (e : Engine V) : Option V → Option V → Bool
  | some v, some w => e.same v w
  | _, _ => false

/-- Whether two columns are equal or both null. -/
def alike (e : Engine V) : Option V → Option V → Bool
  | some v, some w => e.same v w
  | none, none => true
  | _, _ => false

/-- No value stands twice in a column.  Nulls may. -/
def Unique (e : Engine V) (rows : List (TableRow V)) (column : String) : Prop :=
  rows.Pairwise fun row other => e.equal (row column) (other column) = false

instance decidableUnique (e : Engine V) (rows : List (TableRow V)) (column : String) :
    Decidable (e.Unique rows column) :=
  inferInstanceAs (Decidable (rows.Pairwise fun row other =>
    e.equal (row column) (other column) = false))

/-- What a row answers to the tests of a formula.  Of a null nothing is known but that it is
null. -/
def reading (e : Engine V) (row : JoinedRow V) : Reading where
  isNull ref := (row.value ref).isNone
  compare comparison subject value :=
    match subject, row.value subject.ref with
    | .column _, some v => e.compare comparison v value
    | .castToText _, some v => e.compare comparison (e.asText v) value
    | _, none => .unknown
  fits style subject pattern :=
    match subject, row.value subject.ref with
    | .column _, some v => e.fits style v pattern
    | .castToText _, some v => e.fits style (e.asText v) pattern
    | _, none => .unknown

end Engine

/-! ## Joined rows -/

/-- Whether a row of another table is joined with a row. -/
def Join.accepts (e : Engine V) (j : Join) (row : JoinedRow V) (other : TableRow V) : Bool :=
  let beside : JoinedRow V := Function.update row j.knownAs other
  e.equal (beside.value j.left) (beside.value j.right)

/-- The rows that come of a row by a join. -/
def Join.extend (e : Engine V) (db : Database V) (j : Join) (row : JoinedRow V) :
    List (JoinedRow V) :=
  match (db j.table).filter (j.accepts e row) with
  | [] => [Function.update row j.knownAs .null]
  | partners => partners.map (Function.update row j.knownAs)

namespace Select

/-- The rows of a statement before its condition. -/
def joinedRows (e : Engine V) (db : Database V) (s : Select) : List (JoinedRow V) :=
  s.joins.foldl (fun rows j => rows.flatMap (j.extend e db))
    ((db s.table).map (JoinedRow.single s.table))

instance decidableKeeps (s : Select) (r : Reading) : Decidable (s.Keeps r) :=
  match h : s.condition with
  | none => .isTrue (by simp [Keeps, h])
  | some condition => decidable_of_iff (condition.truth r = .yes) (by simp [Keeps, h])

/-- The rows that a statement keeps. -/
def kept (e : Engine V) (db : Database V) (s : Select) : List (JoinedRow V) :=
  (s.joinedRows e db).filter fun row => s.Keeps (e.reading row)

end Select

/-! ## What is given -/

/-- What stands in a row of an answer. -/
inductive Datum (V : Type) where
  | value (value : Option V)
  /-- A number of rows. -/
  | number (count : Nat)

namespace Output

/-- Whether an output is made of several rows. -/
def isAggregate : Output → Bool
  | column _ | slot _ => false
  | count | sum _ => true

/-- What a row has for an output that is made of a single row. -/
def ofRow (e : Engine V) (row : JoinedRow V) : Output → Option V
  | column ref => row.value ref
  | slot ref => (row.value ref).map e.slot
  | count | sum _ => none

/-- What some rows have for an output.  Those of one group agree in what is made of a single
row. -/
def ofRows (e : Engine V) (rows : List (JoinedRow V)) : Output → Datum V
  | count => .number rows.length
  | sum ref => .value (e.sum (rows.filterMap (·.value ref)))
  | output => .value (rows.head?.bind fun row => output.ofRow e row)

end Output

/-- Groups with one more row, in the first group with a row like it or in one of its own. -/
def enter {α : Type} (alike : α → α → Bool) (row : α) : List (List α) → List (List α)
  | [] => [[row]]
  | group :: rest =>
      if group.any (alike row) then (group ++ [row]) :: rest else group :: enter alike row rest

namespace Select

/-- The rows that a statement gives a row of the answer for.  Without groups these are all
rows together when something is made of several rows, and else each row for itself. -/
def grouped (e : Engine V) (s : Select) (rows : List (JoinedRow V)) : List (List (JoinedRow V)) :=
  match s.groups with
  | [] => if s.outputs.any (·.1.isAggregate) then [rows] else rows.map fun row => [row]
  | keys =>
      let alike := fun row other =>
        keys.all fun key => e.alike (key.ofRow e row) (key.ofRow e other)
      rows.foldl (fun groups row => enter alike row groups) []

/-- The rows that a statement gives, before they are ordered and cut to a window. -/
def given (e : Engine V) (db : Database V) (s : Select) : List (List (Datum V × String)) :=
  (s.grouped e (s.kept e db)).map fun rows => s.outputs.map fun output =>
    (output.1.ofRows e rows, output.2)

end Select

/-! ## Readings of rows -/

/-- A formula is as true of one row as of another with the same columns. -/
theorem Formula.truth_congr {e : Engine V} {row other : JoinedRow V} {formula : Formula}
    (agree : ∀ ref ∈ formula.columns, row.value ref = other.value ref) :
    formula.truth (e.reading row) = formula.truth (e.reading other) := by
  induction formula with
  | always | never => rfl
  | compare comparison subject value =>
      have same := agree subject.ref (List.mem_singleton_self _)
      simp only [truth, Engine.reading, same]
  | isNull ref | isNotNull ref =>
      have same := agree ref (List.mem_singleton_self _)
      simp only [truth, Engine.reading, same]
  | fits style subject pattern =>
      have same := agree subject.ref (List.mem_singleton_self _)
      simp only [truth, Engine.reading, same]
  | not formula ih =>
      rw [truth, truth, ih agree]
  | and left right leftIh rightIh | or left right leftIh rightIh =>
      rw [truth, truth, leftIh fun ref member => agree ref (List.mem_append_left _ member),
        rightIh fun ref member => agree ref (List.mem_append_right _ member)]

/-! ## Equality of columns -/

namespace Engine

variable {e : Engine V}

theorem equal_comm (isEquality : e.IsEquality) (v w : Option V) : e.equal v w = e.equal w v := by
  cases v with
  | none => cases w <;> rfl
  | some v =>
      cases w with
      | none => rfl
      | some w => exact Bool.eq_iff_iff.2 ⟨isEquality.symm, isEquality.symm⟩

theorem equal_trans (isEquality : e.IsEquality) {u v w : Option V}
    (first : e.equal u v = true) (second : e.equal v w = true) : e.equal u w = true := by
  cases u with
  | none => cases first
  | some u =>
      cases v with
      | none => cases first
      | some v =>
          cases w with
          | none => cases second
          | some w => exact isEquality.trans first second

/-- Where no value stands twice, the rows with a given value are the first one, if any. -/
theorem Unique.filter_eq (isEquality : e.IsEquality) {rows : List (TableRow V)} {column : String}
    (unique : e.Unique rows column) (value : Option V) :
    rows.filter (fun row => e.equal value (row column)) =
      (rows.find? fun row => e.equal value (row column)).toList := by
  induction rows with
  | nil => rfl
  | cons row rest ih =>
      obtain ⟨apart, restUnique⟩ := List.pairwise_cons.1 unique
      rw [List.filter_cons, List.find?_cons]
      cases isFirst : e.equal value (row column) with
      | false => exact ih restUnique
      | true =>
          have noOther : rest.filter (fun row => e.equal value (row column)) = [] := by
            refine List.filter_eq_nil_iff.2 fun other member isOther => ?_
            rw [equal_comm isEquality] at isFirst
            have twice := equal_trans isEquality isFirst isOther
            rw [apart other member] at twice
            cases twice
          rw [if_pos rfl, noOther]
          rfl

/-- The first row with a value in a column, and nulls when there is none. -/
def find (e : Engine V) (rows : List (TableRow V)) (value : Option V) (column : String) :
    TableRow V :=
  (rows.find? fun row => e.equal value (row column)).getD .null

end Engine

/-! ## Joins that find one row -/

namespace Join

variable {e : Engine V} {db : Database V} {j : Join} {table own other : String}

/-- A join looks rows up by a column of the table that is read. -/
structure LooksUp (j : Join) (table own other : String) : Prop where
  apart : table ≠ j.knownAs
  /-- The two columns stand on the two sides. -/
  sides : (j.left = ⟨table, own⟩ ∧ j.right = ⟨j.knownAs, other⟩) ∨
    (j.left = ⟨j.knownAs, other⟩ ∧ j.right = ⟨table, own⟩)

/-- The row that is joined with a row. -/
def partner (e : Engine V) (db : Database V) (j : Join) (row : JoinedRow V) : TableRow V :=
  ((db j.table).find? (j.accepts e row)).getD .null

theorem accepts_eq (isEquality : e.IsEquality) (looksUp : j.LooksUp table own other)
    (row : JoinedRow V) : j.accepts e row = fun found => e.equal (row table own) (found other) := by
  funext found
  have ownValue : JoinedRow.value (Function.update row j.knownAs found) ⟨table, own⟩ =
      row table own := by
    rw [JoinedRow.value, Function.update_of_ne looksUp.apart]
  have otherValue : JoinedRow.value (Function.update row j.knownAs found) ⟨j.knownAs, other⟩ =
      found other := by
    rw [JoinedRow.value, Function.update_self]
  rw [accepts]
  rcases looksUp.sides with ⟨left, right⟩ | ⟨left, right⟩
  · rw [left, right, ownValue, otherValue]
  · rw [left, right, ownValue, otherValue, Engine.equal_comm isEquality]

theorem partner_eq (isEquality : e.IsEquality) (looksUp : j.LooksUp table own other)
    (row : JoinedRow V) : j.partner e db row = e.find (db j.table) (row table own) other := by
  rw [partner, accepts_eq isEquality looksUp, Engine.find]

/-- A join that looks rows up by a column without doubles gives one row. -/
theorem extend_eq (isEquality : e.IsEquality) (looksUp : j.LooksUp table own other)
    (unique : e.Unique (db j.table) other) (row : JoinedRow V) :
    j.extend e db row = [Function.update row j.knownAs (j.partner e db row)] := by
  rw [extend, partner, accepts_eq isEquality looksUp, unique.filter_eq isEquality]
  cases (db j.table).find? fun found => e.equal (row table own) (found other) with
  | none => rfl
  | some found => rfl

end Join

namespace Select

variable {e : Engine V} {db : Database V} {s : Select}

/-- A row with the row of each join beside it. -/
def beside (e : Engine V) (db : Database V) (joins : List Join) (row : JoinedRow V) : JoinedRow V :=
  joins.foldl (fun row j => Function.update row j.knownAs (j.partner e db row)) row

/-- Each join looks rows up by a column without doubles. -/
def FindsOne (e : Engine V) (db : Database V) (table : String) (joins : List Join) : Prop :=
  ∀ j ∈ joins, ∃ own other, j.LooksUp table own other ∧ e.Unique (db j.table) other

/-- Joins that find one row give every row one joined row. -/
theorem joinedRows_eq_map (isEquality : e.IsEquality) (findsOne : FindsOne e db s.table s.joins) :
    s.joinedRows e db =
      (db s.table).map fun row => beside e db s.joins (JoinedRow.single s.table row) := by
  -- the rows are any, since a join extends what the joins before it have made
  have ofRows : ∀ joins, FindsOne e db s.table joins → ∀ rows : List (JoinedRow V),
      joins.foldl (fun rows j => rows.flatMap (j.extend e db)) rows =
        rows.map (beside e db joins) := by
    intro joins
    induction joins with
    | nil =>
        intro _ rows
        exact (List.map_id rows).symm
    | cons j rest ih =>
        intro findsOne rows
        obtain ⟨own, other, looksUp, unique⟩ := findsOne j List.mem_cons_self
        have step : rows.flatMap (j.extend e db) =
            rows.map fun row => Function.update row j.knownAs (j.partner e db row) := by
          rw [funext (Join.extend_eq isEquality looksUp unique)]
          exact List.map_eq_flatMap.symm
        rw [List.foldl_cons, step, ih fun later member => findsOne later (.tail j member),
          List.map_map]
        rfl
  rw [joinedRows, ofRows s.joins findsOne, List.map_map]
  rfl

/-- The joins leave the table that is read alone, and put beside it the rows they find. -/
theorem beside_spec (isEquality : e.IsEquality) (db : Database V) {table : String}
    {joins : List Join} (differ : (table :: joins.map (·.knownAs)).Nodup) (row : JoinedRow V) :
    (∀ name, name ∉ joins.map (·.knownAs) → beside e db joins row name = row name) ∧
      ∀ j ∈ joins, ∀ own other, j.LooksUp table own other →
        beside e db joins row j.knownAs = e.find (db j.table) (row table own) other := by
  induction joins generalizing row with
  | nil => exact ⟨fun _ _ => rfl, fun _ none => nomatch none⟩
  | cons j rest ih =>
      obtain ⟨notTable, differ⟩ := List.nodup_cons.1 differ
      obtain ⟨notLater, restDiffer⟩ := List.nodup_cons.1 differ
      rw [List.map_cons, List.mem_cons, not_or] at notTable
      obtain ⟨others, found⟩ := ih (List.nodup_cons.2 ⟨notTable.2, restDiffer⟩)
        (Function.update row j.knownAs (j.partner e db row))
      refine ⟨fun name absent => ?_, fun later member own other looksUp => ?_⟩
      · rw [List.map_cons, List.mem_cons, not_or] at absent
        exact (others name absent.2).trans (Function.update_of_ne absent.1 _ _)
      · rcases List.mem_cons.1 member with rfl | member
        · -- no later join has its name, so what it has put there stays
          refine (others later.knownAs notLater).trans ?_
          rw [Function.update_self, Join.partner_eq isEquality looksUp]
        · refine (found later member own other looksUp).trans ?_
          rw [Function.update_of_ne notTable.1]

end Select

/-! ## What a join finds -/

namespace Join

variable {e : Engine V} {db : Database V} {j : Join} {table own other : String}
variable {row extended : JoinedRow V}

/-- What a join accepts depends on the row of the table that is read. -/
theorem accepts_congr (looksUp : j.LooksUp table own other)
    (sameRow : extended table = row table) : j.accepts e extended = j.accepts e row := by
  have ofTable : ∀ (r : JoinedRow V) found column,
      JoinedRow.value (Function.update r j.knownAs found) ⟨table, column⟩ = r table column := by
    intro r found column
    rw [JoinedRow.value, Function.update_of_ne looksUp.apart]
  have ofOther : ∀ (r : JoinedRow V) found column,
      JoinedRow.value (Function.update r j.knownAs found) ⟨j.knownAs, column⟩ = found column := by
    intro r found column
    rw [JoinedRow.value, Function.update_self]
  funext found
  rw [accepts, accepts]
  rcases looksUp.sides with ⟨left, right⟩ | ⟨left, right⟩
  · simp only [left, right, ofTable, ofOther, sameRow]
  · simp only [left, right, ofTable, ofOther, sameRow]

/-- Under the name of a join stands a row that it accepts, and nulls when it accepts none. -/
inductive Finds (e : Engine V) (db : Database V) (j : Join) (row : JoinedRow V) : Prop where
  | matched (isRow : row j.knownAs ∈ db j.table) (accepted : j.accepts e row (row j.knownAs) = true)
  | unmatched (isNull : row j.knownAs = .null)
      (refused : ∀ found ∈ db j.table, j.accepts e row found = false)

theorem Finds.congr (looksUp : j.LooksUp table own other) (sameRow : extended table = row table)
    (sameFound : extended j.knownAs = row j.knownAs) (finds : j.Finds e db row) :
    j.Finds e db extended := by
  cases finds with
  | matched isRow accepted =>
      exact .matched (sameFound ▸ isRow) (by rwa [accepts_congr looksUp sameRow, sameFound])
  | unmatched isNull refused =>
      exact .unmatched (sameFound ▸ isNull) (by rwa [accepts_congr looksUp sameRow])

/-- Extending a row puts under the name of the join what it finds, and leaves the rest alone. -/
theorem extend_spec (looksUp : j.LooksUp table own other) (member : extended ∈ j.extend e db row) :
    j.Finds e db extended ∧ ∀ name, name ≠ j.knownAs → extended name = row name := by
  have accepts_eq : ∀ found, j.accepts e (Function.update row j.knownAs found) = j.accepts e row :=
    fun found => accepts_congr looksUp (Function.update_of_ne looksUp.apart _ _)
  rw [extend] at member
  split at member
  next none =>
    rw [List.mem_singleton.1 member]
    refine ⟨.unmatched (Function.update_self ..) fun found isRow => ?_,
      fun name different => Function.update_of_ne different _ _⟩
    rw [accepts_eq]
    exact Bool.eq_false_iff.2 (List.filter_eq_nil_iff.1 none found isRow)
  next =>
    obtain ⟨found, isPartner, rfl⟩ := List.mem_map.1 member
    obtain ⟨isRow, accepted⟩ := List.mem_filter.1 isPartner
    refine ⟨.matched ?_ ?_, fun name different => Function.update_of_ne different _ _⟩
    · rwa [Function.update_self]
    · rwa [Function.update_self, accepts_eq]

end Join

namespace Select

variable {e : Engine V} {db : Database V} {s : Select}

/-- In a joined row stands what each join finds. -/
theorem finds_of_mem_joinedRows (differ : s.tableNames.Nodup)
    (lookUp : ∀ j ∈ s.joins, ∃ own other, j.LooksUp s.table own other) {row : JoinedRow V}
    (member : row ∈ s.joinedRows e db) : ∀ j ∈ s.joins, j.Finds e db row := by
  rw [joinedRows] at member
  rw [tableNames] at differ
  generalize s.joins = joins at differ lookUp member ⊢
  induction joins using List.reverseRecOn generalizing row with
  | nil => exact fun _ none => (List.not_mem_nil none).elim
  | append_singleton joins last ih =>
      rw [List.map_append, ← List.cons_append] at differ
      obtain ⟨earlierDiffer, _, apart⟩ := List.nodup_append.1 differ
      rw [List.foldl_append, List.foldl_cons, List.foldl_nil, List.mem_flatMap] at member
      obtain ⟨before, isBefore, isExtended⟩ := member
      have lookUpEarlier := fun j isJoin => lookUp j (List.mem_append_left [last] isJoin)
      obtain ⟨_, _, looksUp⟩ := lookUp last (List.mem_append_right _ (List.mem_singleton_self _))
      obtain ⟨finds, keeps⟩ := Join.extend_spec looksUp isExtended
      have isLast : last.knownAs ∈ [last].map (·.knownAs) := List.mem_singleton_self _
      intro j isJoin
      rcases List.mem_append.1 isJoin with earlier | isLastJoin
      · -- the last join has another name than the table and the earlier joins
        obtain ⟨_, _, looksUpEarlier⟩ := lookUpEarlier j earlier
        refine (ih earlierDiffer lookUpEarlier isBefore j earlier).congr looksUpEarlier ?_ ?_
        · exact keeps _ (apart _ List.mem_cons_self _ isLast)
        · exact keeps _ (apart _ (.tail _ (List.mem_map_of_mem earlier)) _ isLast)
      · rwa [List.mem_singleton.1 isLastJoin]

end Select

end Backoffice.Sql
