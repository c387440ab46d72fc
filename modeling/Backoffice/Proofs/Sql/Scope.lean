import Backoffice.Sql.Select

/-!
# Names in statements

Which names a statement gives to tables and which columns it names: in what it gives, in
its joins, its condition, its groups and its order.
-/

namespace Backoffice.Sql

/-! ## Columns of formulas -/

namespace Formula

theorem columns_foldl {op : Formula → Formula → Formula}
    (both : ∀ left right, (op left right).columns = left.columns ++ right.columns)
    (first : Formula) (others : List Formula) :
    (others.foldl op first).columns = first.columns ++ others.flatMap columns := by
  induction others generalizing first with
  | nil => simp
  | cons next rest ih => rw [List.foldl_cons, ih, both, List.flatMap_cons, List.append_assoc]

@[simp] theorem columns_all (formulas : List Formula) :
    (all formulas).columns = formulas.flatMap columns := by
  cases formulas with
  | nil => rfl
  | cons first rest => rw [all, columns_foldl fun _ _ => rfl, List.flatMap_cons]

@[simp] theorem columns_any (formulas : List Formula) :
    (any formulas).columns = formulas.flatMap columns := by
  cases formulas with
  | nil => rfl
  | cons first rest => rw [any, columns_foldl fun _ _ => rfl, List.flatMap_cons]

end Formula

/-! ## Columns of statements -/

/-- The two columns of a join. -/
def Join.columns (j : Join) : List ColumnRef := [j.left, j.right]

/-- The columns a sort key reads. -/
def SortKey.columns : SortKey → List ColumnRef
  | output o => o.columns
  | named _ => []

namespace Select

/-- The names of the tables.  The table that is read is known by its own name. -/
def tableNames (s : Select) : List String := s.table :: s.joins.map (·.knownAs)

/-- The columns that a condition reads, if there is one. -/
def conditionColumns (s : Select) : List ColumnRef :=
  match s.condition with
  | some condition => condition.columns
  | none => []

/-- The columns that a statement reads of the rows it keeps. -/
def givenColumns (s : Select) : List ColumnRef :=
  s.outputs.flatMap (·.1.columns) ++ s.groups.flatMap Output.columns ++
    s.order.flatMap (·.1.columns)

/-- The columns that a statement names. -/
def columns (s : Select) : List ColumnRef :=
  s.joins.flatMap Join.columns ++ s.conditionColumns ++ s.givenColumns

theorem conditionColumns_restrict (s : Select) (formula : Formula) :
    (s.restrict formula).conditionColumns = s.conditionColumns ++ formula.columns := by
  rw [conditionColumns, restrict, conditionColumns]
  cases s.condition with
  | none => rfl
  | some condition => rfl

end Select

end Backoffice.Sql
