import Backoffice.Proofs.Sql.Database
import Mathlib.Data.List.Pairwise

/-!
# Ordered rows

The order of a statement goes by its keys, the first one that tells two rows apart.  How the
values of an output are ordered is left to a `Collation`, which may have rows of different
values in one place and nulls anywhere.

A statement may give its rows in any order that agrees with the keys.  Where no two rows are
in one place there is a single such order (`Select.exists_ordered`), and then the windows of
a statement are parts of one list.
-/

namespace Backoffice.Sql

variable {V : Type}

/-- How a database orders the values of an output, null included. -/
structure Collation (V : Type) where
  order : Output → Option V → Option V → Ordering
  /-- Each order is a total preorder. -/
  trans : ∀ output, Std.TransCmp (order output)

/-- The order of values in a direction. -/
def Direction.apply {α : Type} (order : α → α → Ordering) : Direction → α → α → Ordering
  | ascending, v, w => order v w
  | descending, v, w => order w v

theorem transCmp_flip {α : Type} (order : α → α → Ordering) [Std.TransCmp order] :
    Std.TransCmp fun v w => order w v where
  eq_swap {v w} := by
    have swapped : order w v = (order v w).swap := Std.OrientedCmp.eq_swap
    exact swapped
  isLE_trans {u v w} first second := by
    have further : (order w u).isLE = true := Std.TransCmp.isLE_trans second first
    exact further

/-- Rows are ordered as what is read of them. -/
theorem transCmp_comap {α β : Type} (order : β → β → Ordering) [Std.TransCmp order] (f : α → β) :
    Std.TransCmp fun row other => order (f row) (f other) where
  eq_swap {row other} := by
    have swapped : order (f row) (f other) = (order (f other) (f row)).swap :=
      Std.OrientedCmp.eq_swap
    exact swapped
  isLE_trans {row between other} first second := by
    have further : (order (f row) (f other)).isLE = true := Std.TransCmp.isLE_trans first second
    exact further

instance Direction.transCmp_apply {α : Type} {order : α → α → Ordering} [Std.TransCmp order]
    (direction : Direction) : Std.TransCmp (direction.apply order) := by
  cases direction with
  | ascending => exact ‹Std.TransCmp order›
  | descending => exact transCmp_flip order

/-- The output that rows are ordered by.  A name is that of one of the given outputs. -/
def SortKey.output? (outputs : List (Output × String)) : SortKey → Option Output
  | .output ofRow => some ofRow
  | .named name => (outputs.find? (·.2 = name)).map (·.1)

namespace Collation

/-- How two rows stand by a key. -/
def compareKey (k : Collation V) (e : Engine V) (outputs : List (Output × String))
    (key : SortKey × Direction) (row other : JoinedRow V) : Ordering :=
  match key.1.output? outputs with
  | some output => key.2.apply (k.order output) (output.ofRow e row) (output.ofRow e other)
  | none => .eq

/-- How two rows stand by some keys, the first one that tells them apart. -/
def compareKeys (k : Collation V) (e : Engine V) (outputs : List (Output × String)) :
    List (SortKey × Direction) → JoinedRow V → JoinedRow V → Ordering
  | [] => fun _ _ => .eq
  | key :: rest => compareLex (k.compareKey e outputs key) (k.compareKeys e outputs rest)

end Collation

namespace Select

/-- How two rows stand in the order of a statement. -/
def compareRows (s : Select) (k : Collation V) (e : Engine V) :
    JoinedRow V → JoinedRow V → Ordering :=
  k.compareKeys e s.outputs s.order

/-- A list of rows is an order in which a statement may give the rows it keeps. -/
structure IsOrdered (s : Select) (k : Collation V) (e : Engine V) (db : Database V)
    (rows : List (JoinedRow V)) : Prop where
  perm : rows.Perm (s.kept e db)
  ordered : rows.Pairwise fun row other => s.compareRows k e row other ≠ .gt

/-- The rows that a statement gives of all rows in their order. -/
def window {α : Type} (s : Select) (rows : List α) : List α :=
  let rest := rows.drop (s.offset.getD 0)
  match s.limit with
  | some limit => rest.take limit
  | none => rest

end Select

/-! ## Orders by keys -/

namespace Collation

variable {k : Collation V} {e : Engine V} {outputs : List (Output × String)}

instance transCmp_compareKey (key : SortKey × Direction) :
    Std.TransCmp (k.compareKey e outputs key) := by
  unfold compareKey
  cases key.1.output? outputs with
  | none => exact { eq_swap := rfl, isLE_trans := fun _ _ => rfl }
  | some output =>
      have isOrder := k.trans output
      exact transCmp_comap (key.2.apply (k.order output)) fun row => output.ofRow e row

instance transCmp_compareKeys (keys : List (SortKey × Direction)) :
    Std.TransCmp (k.compareKeys e outputs keys) := by
  induction keys with
  | nil => exact { eq_swap := rfl, isLE_trans := fun _ _ => rfl }
  | cons key rest ih => exact inferInstanceAs (Std.TransCmp (compareLex _ _))

/-- Rows are in one place when no key tells them apart. -/
theorem compareKeys_eq_iff {keys : List (SortKey × Direction)} {row other : JoinedRow V} :
    k.compareKeys e outputs keys row other = .eq ↔
      ∀ key ∈ keys, k.compareKey e outputs key row other = .eq := by
  induction keys with
  | nil => simp [compareKeys]
  | cons key rest ih => simp [compareKeys, compareLex, Ordering.then_eq_eq, ih]

end Collation

namespace Select

variable {s : Select} {k : Collation V} {e : Engine V} {db : Database V}

instance transCmp_compareRows : Std.TransCmp (s.compareRows k e) :=
  inferInstanceAs (Std.TransCmp (k.compareKeys e s.outputs s.order))

/-- A key column in the order of a statement tells rows apart that it does not have in one
place. -/
theorem compareRows_ne_eq {row other : JoinedRow V} {ref : ColumnRef}
    (listed : (.output (.column ref), .ascending) ∈ s.order)
    (apart : k.order (.column ref) (row.value ref) (other.value ref) ≠ .eq) :
    s.compareRows k e row other ≠ .eq := by
  intro same
  exact apart (Collation.compareKeys_eq_iff.1 same _ listed)

/-! ## The rows in order -/

/-- Where no two rows are in one place, a statement gives its rows in a single order. -/
theorem exists_ordered
    (apart : (s.kept e db).Pairwise fun row other => s.compareRows k e row other ≠ .eq) :
    ∃ rows, rows.Pairwise (fun row other => s.compareRows k e row other = .lt) ∧
      ∀ rows', s.IsOrdered k e db rows' ↔ rows' = rows := by
  have symm : Std.Symm fun row other => s.compareRows k e row other ≠ .eq :=
    ⟨fun _ _ apart same => apart (Std.OrientedCmp.eq_symm same)⟩
  let rows := (s.kept e db).mergeSort fun row other => (s.compareRows k e row other).isLE
  have perm : rows.Perm (s.kept e db) := List.mergeSort_perm _ _
  have sorted : rows.Pairwise fun row other => (s.compareRows k e row other).isLE = true := by
    refine List.pairwise_mergeSort (fun _ _ _ => Std.TransCmp.isLE_trans) (fun row other => ?_) _
    have swapped : s.compareRows k e other row = (s.compareRows k e row other).swap :=
      Std.OrientedCmp.eq_swap
    rw [swapped]
    cases s.compareRows k e row other with
    | lt | eq | gt => rfl
  have strict : rows.Pairwise fun row other => s.compareRows k e row other = .lt := by
    refine (sorted.and (apart.perm perm.symm (symm.symm _ _))).imp fun {row other} both => ?_
    cases stand : s.compareRows k e row other with
    | lt => rfl
    | eq => exact absurd stand both.2
    | gt =>
        rw [stand] at both
        cases both.1
  refine ⟨rows, strict, fun rows' => ⟨fun isOrdered => ?_, ?_⟩⟩
  · have sorted' : rows'.Pairwise fun row other => (s.compareRows k e row other).isLE = true :=
      isOrdered.ordered.imp Ordering.isLE_iff_ne_gt.2
    refine List.Perm.eq_of_pairwise (fun row other member member' before after => ?_) sorted' sorted
      (isOrdered.perm.trans perm.symm)
    -- rows in one place are the same one, since no two are
    have same := Std.OrientedCmp.isLE_antisymm before after
    by_contra different
    exact apart.forall (isOrdered.perm.subset member) (perm.subset member') different same
  · rintro rfl
    refine ⟨perm, strict.imp fun before => ?_⟩
    rw [before]
    nofun

end Select

end Backoffice.Sql
