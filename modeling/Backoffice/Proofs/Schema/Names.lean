import Backoffice.Proofs.Filter.Paths
import Backoffice.Proofs.Schema.Registry
import Mathlib.Data.List.Nodup

/-!
# Plain names

The names of a declaration are plain when no field has the name of another one, no
association has, and none of them has a point in it.

A declaration grows in steps.  Which step keeps the names plain is said by
`DeclarationStep.IsPlain`: a column is free to take the place of the one of its name,
while a column that is configured must not be given the name of another one.  One such
step keeps the names plain (`HasPlainNames.apply`), and so does a run of them
(`HasPlainNames.run`), so that a declaration made in such steps has plain names.
-/

namespace Backoffice

/-! ## Steps -/

/-- One step of a declaration. -/
inductive DeclarationStep where
  | column (new : Column)
  | configure (field : String) (update : Column → Column)
  | searchingIn (fields : List String)
  | association (new : Association)

namespace Declaration

/-- The declaration after a step. -/
def apply (d : Declaration) : DeclarationStep → Declaration
  | .column new => d.column new
  | .configure field update => d.configure field update
  | .searchingIn fields => d.searchingIn fields
  | .association new => d.association new

/-- The declaration after some steps. -/
def run (d : Declaration) (steps : List DeclarationStep) : Declaration := steps.foldl apply d

/-- The names differ and have no points. -/
structure HasPlainNames (d : Declaration) : Prop where
  /-- No two columns have one field name. -/
  fieldsDiffer : (d.columns.map (·.field)).Nodup
  fieldsUndotted : ∀ c ∈ d.columns, '.' ∉ c.field.toList
  /-- No two associations have one name. -/
  associationsDiffer : (d.associations.map (·.name)).Nodup
  associationsUndotted : ∀ a ∈ d.associations, '.' ∉ a.name.toList

end Declaration

/-- A step that keeps the names of a declaration plain. -/
def DeclarationStep.IsPlain (d : Declaration) : DeclarationStep → Prop
  | .column new => '.' ∉ new.field.toList
  | .configure field update => ∀ c ∈ d.columns, c.field = field →
      '.' ∉ (update c).field.toList ∧
        ((update c).field = field ∨ ∀ other ∈ d.columns, other.field ≠ (update c).field)
  | .searchingIn _ => True
  | .association new => '.' ∉ new.name.toList ∧ ∀ a ∈ d.associations, a.name ≠ new.name

instance DeclarationStep.decidableIsPlain (d : Declaration) :
    (step : DeclarationStep) → Decidable (step.IsPlain d)
  | .column new => inferInstanceAs (Decidable ('.' ∉ new.field.toList))
  | .configure field update => inferInstanceAs (Decidable (∀ c ∈ d.columns, c.field = field →
      '.' ∉ (update c).field.toList ∧
        ((update c).field = field ∨ ∀ other ∈ d.columns, other.field ≠ (update c).field)))
  | .searchingIn _ => inferInstanceAs (Decidable True)
  | .association new => inferInstanceAs
      (Decidable ('.' ∉ new.name.toList ∧ ∀ a ∈ d.associations, a.name ≠ new.name))

namespace Declaration

/-- Every step of a run keeps the names plain. -/
def PlainSteps : Declaration → List DeclarationStep → Prop
  | _, [] => True
  | d, step :: rest => step.IsPlain d ∧ (d.apply step).PlainSteps rest

instance decidablePlainSteps : (d : Declaration) → (steps : List DeclarationStep) →
    Decidable (d.PlainSteps steps)
  | _, [] => inferInstanceAs (Decidable True)
  | d, step :: rest =>
      have := decidablePlainSteps (d.apply step) rest
      inferInstanceAs (Decidable (step.IsPlain d ∧ (d.apply step).PlainSteps rest))

/-- A declaration to begin with: without columns, or with those of an entity whose column
names are plain. -/
inductive IsPlainStart : Declaration → Prop where
  | new (name table : String) : IsPlainStart { name, table }
  | ofEntity {name : String} {e : Entity} (differ : (e.columns.map (·.1)).Nodup)
      (undotted : ∀ column ∈ e.columns, '.' ∉ column.1.toList) : IsPlainStart (.ofEntity name e)

/-- The declaration was made in plain steps. -/
def IsPlainlyMade (d : Declaration) : Prop :=
  ∃ start : Declaration, ∃ steps, start.IsPlainStart ∧ start.PlainSteps steps ∧ start.run steps = d

/-! ## Columns in place of others -/

theorem nodup_map_concat {α : Type} {key : α → String} {items : List α} {new : α}
    (unique : (items.map key).Nodup) (fresh : ∀ item ∈ items, key item ≠ key new) :
    ((items ++ [new]).map key).Nodup := by
  rw [List.map_append, List.map_singleton, List.nodup_append]
  refine ⟨unique, List.nodup_singleton _, ?_⟩
  intro name taken _ isNew same
  obtain ⟨item, member, rfl⟩ := List.mem_map.1 taken
  exact fresh item member (same.trans (List.mem_singleton.1 isNew))

section
variable {found : Column → Bool} {update : Column → Column} {columns changed : List Column}

theorem updateFirst_eq_some (isChanged : updateFirst found update columns = some changed) :
    ∃ before c after, columns = before ++ c :: after ∧ found c = true ∧
      changed = before ++ update c :: after := by
  induction columns generalizing changed with
  | nil => cases isChanged
  | cons column rest ih =>
      rw [updateFirst] at isChanged
      split at isChanged
      next here =>
        cases isChanged
        exact ⟨[], column, rest, rfl, here, rfl⟩
      next =>
        obtain ⟨others, isOthers, rfl⟩ := Option.map_eq_some_iff.1 isChanged
        obtain ⟨before, c, after, rfl, isFound, rfl⟩ := ih isOthers
        exact ⟨column :: before, c, after, rfl, isFound, rfl⟩

theorem updateFirst_eq_none (unchanged : updateFirst found update columns = none) :
    ∀ c ∈ columns, found c = false := by
  induction columns with
  | nil => simp
  | cons column rest ih =>
      rw [updateFirst] at unchanged
      split at unchanged
      next => cases unchanged
      next notHere =>
        rw [Option.map_eq_none_iff] at unchanged
        intro c member
        rcases List.mem_cons.1 member with rfl | later
        · simpa using notHere
        · exact ih unchanged c later

end

namespace HasPlainNames

variable {d : Declaration}

/-- A column may take the place of another one under its name or under a new one. -/
theorem replace (plain : d.HasPlainNames) {before after : List Column} {old new : Column}
    (split : d.columns = before ++ old :: after) (undotted : '.' ∉ new.field.toList)
    (fresh : new.field = old.field ∨ ∀ other ∈ d.columns, other.field ≠ new.field) :
    { d with columns := before ++ new :: after }.HasPlainNames := by
  have differ := plain.fieldsDiffer
  have others : ∀ c ∈ before ++ after, c ∈ d.columns := by
    intro c member
    rw [split]
    rcases List.mem_append.1 member with early | late
    · exact List.mem_append_left _ early
    · exact List.mem_append_right _ (.tail _ late)
  -- the place of the column does not matter, so its name is moved before the others
  rw [split, List.map_append, List.map_cons, List.nodup_middle, List.nodup_cons,
    ← List.map_append] at differ
  refine ⟨?_, ?_, plain.associationsDiffer, plain.associationsUndotted⟩
  · rw [List.map_append, List.map_cons, List.nodup_middle, List.nodup_cons, ← List.map_append]
    refine ⟨fun taken => ?_, differ.2⟩
    obtain ⟨c, member, same⟩ := List.mem_map.1 taken
    rcases fresh with kept | unused
    · exact differ.1 (List.mem_map.2 ⟨c, member, same.trans kept⟩)
    · exact unused c (others c member) same
  · intro c member
    rcases List.mem_append.1 member with early | late
    · exact plain.fieldsUndotted c (others c (List.mem_append_left _ early))
    · rcases List.mem_cons.1 late with rfl | late
      · exact undotted
      · exact plain.fieldsUndotted c (others c (List.mem_append_right _ late))

theorem addColumn (plain : d.HasPlainNames) {new : Column} (undotted : '.' ∉ new.field.toList) :
    (d.column new).HasPlainNames := by
  rw [Declaration.column]
  split
  next columns replaced =>
    obtain ⟨before, old, after, split, isFound, rfl⟩ := updateFirst_eq_some replaced
    exact plain.replace split undotted (.inl (Eq.symm (by simpa using isFound)))
  next unchanged =>
    have absent := updateFirst_eq_none unchanged
    have fresh : ∀ c ∈ d.columns, c.field ≠ new.field := by
      intro c member
      simpa using absent c member
    exact ⟨nodup_map_concat plain.fieldsDiffer fresh,
      List.forall_mem_append.2 ⟨plain.fieldsUndotted, List.forall_mem_singleton.2 undotted⟩,
      plain.associationsDiffer, plain.associationsUndotted⟩

theorem addAssociation (plain : d.HasPlainNames) {new : Association}
    (undotted : '.' ∉ new.name.toList) (fresh : ∀ a ∈ d.associations, a.name ≠ new.name) :
    (d.association new).HasPlainNames :=
  ⟨plain.fieldsDiffer, plain.fieldsUndotted, nodup_map_concat plain.associationsDiffer fresh,
    List.forall_mem_append.2 ⟨plain.associationsUndotted, List.forall_mem_singleton.2 undotted⟩⟩

/-- A plain step keeps the names plain. -/
theorem apply (plain : d.HasPlainNames) {step : DeclarationStep} (isPlain : step.IsPlain d) :
    (d.apply step).HasPlainNames := by
  cases step with
  | column new => exact plain.addColumn isPlain
  | configure field update =>
      rw [Declaration.apply, Declaration.configure]
      split
      next columns replaced =>
        obtain ⟨before, old, after, split, isFound, rfl⟩ := updateFirst_eq_some replaced
        have named : old.field = field := by simpa using isFound
        have member : old ∈ d.columns := by
          rw [split]
          exact List.mem_append_right _ List.mem_cons_self
        obtain ⟨undotted, fresh⟩ := isPlain old member named
        exact plain.replace split undotted (named.symm ▸ fresh)
      next =>
        exact ⟨plain.fieldsDiffer, plain.fieldsUndotted, plain.associationsDiffer,
          plain.associationsUndotted⟩
  | searchingIn fields =>
      exact ⟨plain.fieldsDiffer, plain.fieldsUndotted, plain.associationsDiffer,
        plain.associationsUndotted⟩
  | association new => exact plain.addAssociation isPlain.1 isPlain.2

/-- A run of plain steps keeps the names plain. -/
theorem run (plain : d.HasPlainNames) {steps : List DeclarationStep}
    (arePlain : d.PlainSteps steps) : (d.run steps).HasPlainNames := by
  induction steps generalizing d with
  | nil => exact plain
  | cons step rest ih => exact ih (plain.apply arePlain.1) arePlain.2

end HasPlainNames

theorem IsPlainStart.hasPlainNames {d : Declaration} (start : d.IsPlainStart) :
    d.HasPlainNames := by
  cases start with
  | new name table => exact ⟨.nil, by simp, .nil, by simp⟩
  | ofEntity differ undotted =>
      refine ⟨?_, ?_, .nil, by simp [Declaration.ofEntity]⟩
      · rw [Declaration.ofEntity, Entity.toColumns, List.map_map]
        exact differ
      · intro c member
        obtain ⟨column, isColumn, rfl⟩ := List.mem_map.1 member
        exact undotted column isColumn

theorem IsPlainlyMade.hasPlainNames {d : Declaration} (made : d.IsPlainlyMade) :
    d.HasPlainNames := by
  obtain ⟨start, steps, isStart, arePlain, rfl⟩ := made
  exact isStart.hasPlainNames.run arePlain

end Declaration

/-! ## The names of a collection -/

/-- The names of the fields differ and have no points. -/
structure Collection.HasPlainFields (c : Collection) : Prop where
  fieldsDiffer : (c.fields.map (·.name)).Nodup
  fieldsUndotted : ∀ f ∈ c.fields, '.' ∉ f.name.toList

/-- The names of the fields and those of the associations differ and have no points. -/
structure Collection.HasPlainNames (c : Collection) : Prop extends c.HasPlainFields where
  /-- No two associations have one name. -/
  associationsDiffer : (c.associations.map (·.name)).Nodup
  associationsUndotted : ∀ a ∈ c.associations, '.' ∉ a.name.toList

theorem Column.of_field? {c : Column} {f : Field} (isField : c.field? = some f) :
    f.name = c.field ∧ f.column = c.column := by
  rw [field?] at isField
  split at isField
  next => cases isField
  next =>
    cases isField
    exact ⟨rfl, rfl⟩

/-- The fields have names of columns, in the same order. -/
theorem Declaration.sublist_fieldNames (columns : List Column) :
    ((columns.filterMap Column.field?).map (·.name)).Sublist (columns.map (·.field)) := by
  induction columns with
  | nil => exact .slnil
  | cons column rest ih =>
      cases isField : column.field? with
      | none =>
          rw [List.filterMap_cons_none isField, List.map_cons]
          exact ih.cons _
      | some f =>
          rw [List.filterMap_cons_some isField, List.map_cons, List.map_cons,
            (Column.of_field? isField).1]
          exact ih.cons_cons _

theorem Declaration.HasPlainNames.toCollection {d : Declaration} (plain : d.HasPlainNames) :
    d.toCollection.HasPlainNames := by
  refine ⟨⟨?_, ?_⟩, plain.associationsDiffer, plain.associationsUndotted⟩
  · exact plain.fieldsDiffer.sublist (sublist_fieldNames d.columns)
  · intro f member
    obtain ⟨c, isColumn, isField⟩ := List.mem_filterMap.1 member
    rw [(Column.of_field? isField).1]
    exact plain.fieldsUndotted c isColumn

section
variable {c : Collection}

/-- Among plain names, a field is the one of its name. -/
theorem Collection.HasPlainFields.field? (plain : c.HasPlainFields) {f : Field}
    (member : f ∈ c.fields) : c.field? f.name = some f :=
  List.find?_of_nodup plain.fieldsDiffer member

/-- Among plain names, an association is the one of its name. -/
theorem Collection.HasPlainNames.association (plain : c.HasPlainNames) {a : Association}
    (member : a ∈ c.associations) : c.association a.name = .ok a :=
  Collection.association_eq_ok.2 (List.find?_of_nodup plain.associationsDiffer member)

end

end Backoffice
