import Mathlib.Algebra.GroupWithZero.Nat
import Mathlib.Data.List.Basic
import Backoffice.Proofs.Sql.Database

/-!
# Groups of rows

Grouping puts every row into one group and loses none (`perm_grouped`), however rows compare.
So the numbers of rows of the groups add up to the number of rows that are kept
(`Select.exists_tally`), the groups of nulls among them.
-/

namespace Backoffice.Sql

variable {V : Type}

/-! ## Entering groups -/

section
variable {α : Type} (alike : α → α → Bool)

/-- The rows of the groups are those from before and the one that enters. -/
theorem perm_enter (row : α) (groups : List (List α)) :
    (enter alike row groups).flatten.Perm (row :: groups.flatten) := by
  induction groups with
  | nil => exact .refl [row]
  | cons group rest ih =>
      rw [enter]
      split
      · rw [List.flatten_cons, List.append_assoc]
        exact List.perm_middle
      · rw [List.flatten_cons, List.flatten_cons]
        exact (ih.append_left group).trans List.perm_middle

theorem perm_foldl_enter (rows : List α) (groups : List (List α)) :
    (rows.foldl (fun groups row => enter alike row groups) groups).flatten.Perm
      (rows ++ groups.flatten) := by
  induction rows generalizing groups with
  | nil => exact .refl groups.flatten
  | cons row rest ih =>
      rw [List.foldl_cons]
      exact (ih _).trans (((perm_enter alike row groups).append_left rest).trans List.perm_middle)

end

namespace Select

variable {e : Engine V} {db : Database V} {s : Select}

/-- The groups of a statement that groups are made of all its rows. -/
theorem perm_grouped (groups : s.groups ≠ []) (rows : List (JoinedRow V)) :
    (s.grouped e rows).flatten.Perm rows := by
  rw [grouped]
  split
  next none => exact absurd none groups
  next =>
    have perm := perm_foldl_enter (fun row other =>
      s.groups.all fun key => e.alike (key.ofRow e row) (key.ofRow e other)) rows []
    rwa [List.flatten_nil, List.append_nil] at perm

/-! ## Tallies of groups -/

/-- The answer of a statement that gives a key and a number of rows for each group. -/
def tally (key value : String) (groups : List (Option V × Nat)) :
    List (List (Datum V × String)) :=
  groups.map fun group => [(.value group.1, key), (.number group.2, value)]

theorem tally_injective (key value : String) :
    Function.Injective (tally (V := V) key value) := by
  refine List.map_injective_iff.2 ?_
  rintro ⟨v, n⟩ ⟨w, m⟩ same
  simpa using same

/-- A statement that counts by a key gives a number for every group, and the numbers add up
to the number of rows it keeps. -/
theorem exists_tally (e : Engine V) (db : Database V) (groups : s.groups ≠ []) {output : Output}
    {key value : String}
    (single : output.isAggregate = false) (outputs : s.outputs = [(output, key), (.count, value)]) :
    ∃ counts : List (Option V × Nat), s.given e db = tally key value counts ∧
      (counts.map Prod.snd).sum = (s.kept e db).length := by
  have isValue : ∀ rows : List (JoinedRow V),
      output.ofRows e rows = .value (rows.head?.bind fun row => output.ofRow e row) := by
    intro rows
    cases output with
    | column | slot => rfl
    | count | sum => cases single
  refine ⟨(s.grouped e (s.kept e db)).map fun rows =>
    (rows.head?.bind fun row => output.ofRow e row, rows.length), ?_, ?_⟩
  · rw [given, tally, outputs, List.map_map]
    refine List.map_congr_left fun rows _ => ?_
    simp only [Function.comp, List.map_cons, List.map_nil, isValue]
    rfl
  · rw [List.map_map, ← (perm_grouped groups (s.kept e db)).length_eq, List.length_flatten]
    rfl

/-! ## One more condition -/

theorem kept_restrict (e : Engine V) (db : Database V) (s : Select) (formula : Formula) :
    (s.restrict formula).kept e db =
      (s.kept e db).filter fun row => formula.truth (e.reading row) = .yes := by
  have sameRows : (s.restrict formula).joinedRows e db = s.joinedRows e db := rfl
  rw [kept, kept, sameRows, List.filter_filter]
  refine List.filter_congr fun row _ => ?_
  simp [keeps_restrict, and_comm]

end Select

end Backoffice.Sql
