import Backoffice.Listing.Record
import Backoffice.Proofs.Text.Pieces

/-!
# Columns of records

A record keeps the values of the columns without a point in their aliases.  Here it is
shown for values that are no objects, which no other column can change.
-/

namespace Backoffice

/-- The values of a map change by the function. -/
theorem KeyMap.find?_mapValues {α β : Type} (f : α → β) (m : KeyMap α) (key : String) :
    (m.mapValues f).find? key = (m.find? key).map f := by
  obtain ⟨entries, rising⟩ := m
  show findIn key (entries.map fun entry => (entry.1, f entry.2)) = (findIn key entries).map f
  clear rising
  induction entries with
  | nil => rfl
  | cons entry rest ih =>
      simp only [List.map_cons, findIn]
      split
      · rfl
      · exact ih

theorem KeyMap.find?_insert_self {α : Type} (m : KeyMap α) (key : String) (value : α) :
    (m.insert key value).find? key = some value :=
  findIn_insertIn_self

theorem KeyMap.find?_insert_of_ne {α : Type} (m : KeyMap α) {key other : String} {value : α}
    (different : other ≠ key) : (m.insert key value).find? other = m.find? other :=
  findIn_insertIn_of_ne different

/-- A value that is found stands in an entry before which the key does not occur. -/
theorem KeyMap.mem_of_findIn {α : Type} {key : String} {value : α} {entries : List (String × α)}
    (found : findIn key entries = some value) : (key, value) ∈ entries := by
  induction entries with
  | nil => cases found
  | cons entry rest ih =>
      rw [findIn] at found
      split at found
      next same =>
        cases found
        subst same
        exact List.mem_cons_self
      next => exact .tail _ (ih found)

namespace Record

/-- A column in an object leaves a member that is no object alone. -/
theorem find?_addNested {members : KeyMap Json} {key : String} {value : Json}
    (held : members.find? key = some value) (plain : value.isObject = false)
    (name field : String) (added : Json) :
    (addNested members name field added).find? key = some value := by
  rw [addNested]
  by_cases same : name = key
  · subst same
    rw [held]
    cases value with
    | members entries => cases plain
    | _ => exact held
  · cases members.find? name with
    | none => rw [KeyMap.find?_insert_of_ne _ (Ne.symm same), held]
    | some other =>
        cases other with
        | members entries => rw [KeyMap.find?_insert_of_ne _ (Ne.symm same), held]
        | _ => exact held

/-- Another column leaves a member that is no object alone. -/
theorem Layout.find?_add {l : Layout} {key : String} {value : Json}
    (held : l.members.find? key = some value) (plain : value.isObject = false)
    {column : String × Json} (other : column.1 ≠ key) :
    (l.add column).members.find? key = some value := by
  rw [Layout.add]
  split
  next name field _ => exact find?_addNested held plain _ _ _
  next =>
    show (l.members.insert column.1 column.2).find? key = some value
    rw [KeyMap.find?_insert_of_ne _ (Ne.symm other), held]

theorem Layout.find?_foldl_add {columns : List (String × Json)} {l : Layout} {key : String}
    {value : Json} (held : l.members.find? key = some value) (plain : value.isObject = false)
    (others : ∀ column ∈ columns, column.1 ≠ key) :
    (columns.foldl Layout.add l).members.find? key = some value := by
  induction columns generalizing l with
  | nil => exact held
  | cons column rest ih =>
      refine ih (find?_add held plain (others column List.mem_cons_self)) fun column member => ?_
      exact others column (.tail _ member)

/-- Putting null for empty objects leaves a member that is no object alone. -/
theorem find?_collapse {members : KeyMap Json} {key : String} {value : Json}
    (held : members.find? key = some value) (plain : value.isObject = false) (name : String) :
    (collapse members name).find? key = some value := by
  rw [collapse]
  by_cases same : name = key
  · subst same
    have matched : isUnmatched value = false := by
      cases value with
      | members entries => cases plain
      | _ => rfl
    rw [held, Option.map_some, Option.getD_some, matched]
    exact held
  · split
    · rw [KeyMap.find?_insert_of_ne _ (Ne.symm same), held]
    · exact held

/-- A record keeps the value of a column whose alias has no point, if it is no object. -/
theorem find?_shape {columns : KeyMap Json} {key : String} {value : Json}
    (held : columns.find? key = some value) (plain : value.isObject = false)
    (undotted : '.' ∉ key.toList) : (shape columns).find? key = some value := by
  obtain ⟨before, after, split⟩ := List.append_of_mem (KeyMap.mem_of_findIn held)
  have rising := columns.rising
  rw [split, List.pairwise_append, List.pairwise_cons] at rising
  have later : ∀ column ∈ after, column.1 ≠ key := by
    intro column member same
    have less := rising.2.1.1 column member
    exact String.lt_irrefl key (same ▸ less)
  have laidOut : ((columns.entries.foldl Layout.add {}).members).find? key = some value := by
    rw [split, List.foldl_append, List.foldl_cons]
    refine Layout.find?_foldl_add ?_ plain later
    have noCut : Text.splitFirst '.' key.toList = none := Text.splitFirst_eq_none_iff.2 undotted
    rw [Layout.add]
    simp only [noCut]
    exact KeyMap.find?_insert_self _ key value
  unfold shape
  simp only
  generalize (columns.entries.foldl Layout.add {}).nested = nested
  generalize (columns.entries.foldl Layout.add {}).members = members at laidOut
  induction nested generalizing members with
  | nil => exact laidOut
  | cons name rest ih => exact ih _ (find?_collapse laidOut plain name)

end Record

end Backoffice
