import Backoffice.Proofs.Schema.Names

/-!
# Described keys

A collection has the names of its key columns, and a request needs the fields of these
names.  The key is described when every name has one.  An accepted registry need not be like
that: a key column may be of a type without semantic type, and then there is no field for it.

Where field names differ, the fields of a key are those of the key columns
(`Declaration.keyFields_toCollection`), so the key is described when none of these columns is
of such a type.
-/

namespace Backoffice

/-- Every name of the key is that of a field. -/
def Collection.KeyIsDescribed (c : Collection) : Prop :=
  ∀ name ∈ c.primaryKeys, ∃ f, c.field? name = some f

instance Collection.decidableKeyIsDescribed (c : Collection) : Decidable c.KeyIsDescribed :=
  decidable_of_iff (∀ name ∈ c.primaryKeys, (c.field? name).isSome = true) <|
    forall₂_congr fun _ _ => Option.isSome_iff_exists

namespace Collection

variable {c : Collection} {name : String}

theorem mem_of_keyFields {f : Field} (isKey : f ∈ c.keyFields) : f ∈ c.fields := by
  obtain ⟨_, _, found⟩ := List.mem_filterMap.1 isKey
  exact (field_of_field? found).1

theorem keyColumn_eq_ok {column : String} :
    c.keyColumn = .ok column ↔ ∃ key, c.keyFields = [key] ∧ key.column = column := by
  rw [keyColumn]
  split
  next key single => simp [single]
  next notSingle =>
    simp only [reduceCtorEq, false_iff]
    rintro ⟨key, single, _⟩
    exact notSingle key single

/-- A key that is not composite has a single name. -/
theorem exists_singleKey (keyed : c.primaryKeys ≠ []) (simple : c.isComposite = false) :
    ∃ name, c.primaryKeys = [name] := by
  have positive := List.length_pos_iff.2 keyed
  have atMostOne : c.primaryKeys.length ≤ 1 := by simpa [isComposite] using simple
  exact List.length_eq_one_iff.1 (by omega)

/-- A key is described when it has as many fields as names. -/
theorem length_keyFields_iff :
    c.keyFields.length = c.primaryKeys.length ↔ c.KeyIsDescribed := by
  rw [keyFields, KeyIsDescribed, List.filterMap_length_eq_length]
  simp only [Option.isSome_iff_exists]

/-- A key that is described and not composite has a column to join by. -/
theorem exists_keyColumn_iff (single : c.primaryKeys = [name]) :
    (∃ key, c.keyColumn = .ok key) ↔ c.KeyIsDescribed := by
  simp only [keyColumn_eq_ok, keyFields, KeyIsDescribed, single, List.forall_mem_singleton]
  cases found : c.field? name with
  | none => simp [found]
  | some f => simp [found]

/-- The first field of a key is that of the first name, when there is one. -/
theorem head?_keyFields {others : List String} {f : Field} (first : c.primaryKeys = name :: others)
    (found : c.field? name = some f) : c.keyFields.head? = some f := by
  rw [keyFields, first, List.filterMap_cons_some found, List.head?_cons]

end Collection

/-! ## Keys of declarations -/

theorem Column.field?_eq_none_iff {c : Column} :
    c.field? = none ↔ c.type.semantic = .unsupported := by
  rw [field?]
  split
  next unsupported => simp [unsupported]
  next supported => simp [supported]

namespace Declaration

variable {d : Declaration} (differ : (d.columns.map (·.field)).Nodup)

include differ

/-- Where field names differ, the field of a column's name is that of the column. -/
theorem field?_toCollection {column : Column} (member : column ∈ d.columns) :
    d.toCollection.field? column.field = column.field? := by
  cases isField : column.field? with
  | some f =>
      have isNamed : (d.toCollection.fields.map (·.name)).Nodup :=
        differ.sublist (sublist_fieldNames d.columns)
      have listed : f ∈ d.toCollection.fields := List.mem_filterMap.2 ⟨column, member, isField⟩
      rw [← (Column.of_field? isField).1]
      exact List.find?_of_nodup isNamed listed
  | none =>
      -- a field of the name could only be made of this column, which has none
      refine List.find?_eq_none.2 fun f listed named => ?_
      obtain ⟨other, isOther, made⟩ := List.mem_filterMap.1 listed
      have sameName : other.field = column.field := by
        rw [← (Column.of_field? made).1]
        simpa using named
      rw [List.inj_on_of_nodup_map differ isOther member sameName, isField] at made
      cases made

/-- Where field names differ, the fields of a key are those of the key columns. -/
theorem keyFields_toCollection :
    d.toCollection.keyFields = (d.columns.filter (·.primaryKey)).filterMap Column.field? := by
  show ((d.columns.filter (·.primaryKey)).map (·.field)).filterMap d.toCollection.field? = _
  rw [List.filterMap_map]
  refine List.filterMap_congr fun column member => ?_
  exact field?_toCollection differ (List.mem_of_mem_filter member)

/-- Where field names differ, a key is described when no key column is of a type without
semantic type. -/
theorem keyIsDescribed_iff :
    d.toCollection.KeyIsDescribed ↔
      ∀ column ∈ d.columns, column.primaryKey = true → column.type.semantic ≠ .unsupported := by
  have isNamed : ∀ column ∈ d.columns,
      (∃ f, d.toCollection.field? column.field = some f) ↔
        column.type.semantic ≠ .unsupported := by
    intro column member
    rw [field?_toCollection differ member, ← Option.ne_none_iff_exists', ne_eq,
      Column.field?_eq_none_iff]
  constructor
  · intro described column member primary
    have listed : column.field ∈ d.toCollection.primaryKeys :=
      List.mem_map_of_mem (List.mem_filter.2 ⟨member, primary⟩)
    exact (isNamed column member).1 (described column.field listed)
  · intro supported name listed
    obtain ⟨column, isKey, rfl⟩ := List.mem_map.1 listed
    obtain ⟨member, primary⟩ := List.mem_filter.1 isKey
    exact (isNamed column member).2 (supported column member primary)

end Declaration

/-! ## Keys of accepted registries -/

namespace Registry

variable {ds : List Declaration} {r : Registry}

/-- A collection of an accepted registry has a key. -/
theorem primaryKeys_ne_nil (built : build ds = .ok r) {c : Collection} (held : c ∈ r.toList) :
    c.primaryKeys ≠ [] := by
  obtain ⟨name, found⟩ := mem_toList.1 held
  obtain ⟨d, _, _, rfl, faultless⟩ := exists_declaration built found
  obtain ⟨column, member, primary⟩ := (declarationFault_eq_none_iff.1 faultless).keyed
  have isKey : column.field ∈ d.toCollection.primaryKeys :=
    List.mem_map_of_mem (List.mem_filter.2 ⟨member, primary⟩)
  exact List.ne_nil_of_mem isKey

end Registry

end Backoffice
