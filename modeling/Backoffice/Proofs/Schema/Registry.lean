import Backoffice.Proofs.KeyMap
import Backoffice.Proofs.Outcome
import Backoffice.Schema.Registry

/-!
# Accepted registries

What `Registry.build` makes sure of.  A declaration without fault is sound by itself
(`Declaration.IsSound`), and those that are added have names of their own
(`Registry.declareAll_eq_ok`).  Every collection is that of one of the declarations
(`Registry.exists_declaration`), and every association reaches a collection of the registry
(`Registry.exists_link`): it refers to a key that is not composite, and its foreign key is the
column of a field.
-/

namespace Backoffice

/-! ## The two sides of an association -/

/-- The side of an association that holds the foreign key. -/
def Association.owner (a : Association) (c target : Collection) : Collection :=
  match a.kind with
  | .belongsTo => c
  | .hasOne | .hasMany => target

/-- The side of an association whose key the foreign key refers to. -/
def Association.referenced (a : Association) (c target : Collection) : Collection :=
  match a.kind with
  | .belongsTo => target
  | .hasOne | .hasMany => c

theorem Association.owner_eq_target {a : Association} (isHas : a.kind ≠ .belongsTo)
    (c target : Collection) : a.owner c target = target := by
  rw [owner]
  cases kind : a.kind with
  | belongsTo => exact absurd kind isHas
  | hasOne | hasMany => rfl

/-- What an accepted association is. -/
structure Association.IsLink (a : Association) (c target : Collection) : Prop where
  /-- The key that the foreign key refers to has a single column. -/
  simple : (a.referenced c target).isComposite = false
  /-- The foreign key is the column of a field. -/
  foreignKey : ∃ f, (a.owner c target).fieldByColumn? a.foreignKey = some f

theorem Collection.column_of_fieldByColumn? {c : Collection} {column : String} {f : Field}
    (found : c.fieldByColumn? column = some f) : f ∈ c.fields ∧ f.column = column := by
  refine ⟨List.mem_of_find?_eq_some found, ?_⟩
  simpa using List.find?_some found

/-! ## Declarations by themselves -/

/-- Nothing is wrong with a declaration by itself. -/
structure Declaration.IsSound (d : Declaration) : Prop where
  /-- Only columns were configured. -/
  configured : d.undeclared = []
  /-- The key has a column. -/
  keyed : ∃ column ∈ d.columns, column.primaryKey = true
  /-- The chosen search fields are fields that a search can look at. -/
  searchable : ∀ names, d.searchFields = some names → ∀ name ∈ names,
    ∃ f, d.toCollection.field? name = some f ∧ f.type.isSearchable = true

/-- The entry of a declaration in the registry. -/
def Declaration.entry (d : Declaration) : String × Collection := (d.name, d.toCollection)

namespace Registry

section
variable {r : Registry} {name : String} {c : Collection}

theorem collection_eq_ok : r.collection name = .ok c ↔ r.collections.find? name = some c := by
  rw [collection]
  cases r.collections.find? name with
  | none => simp
  | some found => simp

theorem mem_toList : c ∈ r.toList ↔ ∃ name, r.collection name = .ok c := by
  rw [toList, KeyMap.mem_values_iff]
  simp only [collection_eq_ok]

end

/-! ## One declaration -/

theorem searchFieldFault_eq_none_iff {c : Collection} {name : String} :
    searchFieldFault c name = none ↔
      ∃ f, c.field? name = some f ∧ f.type.isSearchable = true := by
  rw [searchFieldFault]
  cases c.field? name with
  | none => simp
  | some f => simp

theorem declarationFault_eq_none_iff {d : Declaration} :
    declarationFault d = none ↔ d.IsSound := by
  have keyed : d.toCollection.primaryKeys.isEmpty = false ↔
      ∃ column ∈ d.columns, column.primaryKey = true := by
    simp [Declaration.toCollection]
  have searchable : ((d.toCollection.searchFields.getD []).findSome?
      (searchFieldFault d.toCollection)) = none ↔ ∀ names, d.searchFields = some names →
        ∀ name ∈ names, ∃ f, d.toCollection.field? name = some f ∧ f.type.isSearchable = true := by
    rw [List.findSome?_eq_none_iff]
    simp only [searchFieldFault_eq_none_iff]
    show (∀ name ∈ d.searchFields.getD [], _) ↔ _
    cases d.searchFields with
    | none => simp
    | some names => simp
  rw [declarationFault]
  cases configured : d.undeclared with
  | cons field others =>
      simp only [reduceCtorEq, false_iff]
      intro sound
      rw [sound.configured] at configured
      cases configured
  | nil =>
      dsimp only
      cases isKeyless : d.toCollection.primaryKeys.isEmpty with
      | true =>
          simp only [if_true, reduceCtorEq, false_iff]
          intro sound
          rw [keyed.2 sound.keyed] at isKeyless
          cases isKeyless
      | false =>
          rw [if_neg Bool.false_ne_true, searchable]
          exact ⟨fun chosen => ⟨configured, keyed.1 isKeyless, chosen⟩,
            fun sound => sound.searchable⟩

/-! ## Several declarations -/

theorem declare_eq_ok {collections result : KeyMap Collection} {d : Declaration} :
    declare collections d = .ok result ↔
      declarationFault d = none ∧ d.name ∉ collections.keys ∧
        collections.insert d.name d.toCollection = result := by
  rw [declare, KeyMap.mem_keys_iff, ← Option.isSome_iff_exists, ← KeyMap.contains]
  cases declarationFault d with
  | some fault => simp
  | none => cases collections.contains d.name <;> simp

section
variable {before ds : List Declaration} {result : KeyMap Collection}

/-- A declaration is added to others when it is without fault and has a name of its own. -/
theorem declare_ofList {d : Declaration} :
    declare (.ofList (before.map Declaration.entry)) d = .ok result ↔
      declarationFault d = none ∧ d.name ∉ before.map (·.name) ∧
        .ofList ((before ++ [d]).map Declaration.entry) = result := by
  rw [declare_eq_ok, KeyMap.mem_keys_ofList, List.map_map, List.map_append, List.map_singleton,
    KeyMap.ofList_concat]
  rfl

/-- Declarations are added to others when they are without fault and each has a name of its
own. -/
theorem declareAll_ofList :
    declareAll (.ofList (before.map Declaration.entry)) ds = .ok result ↔
      (∀ d ∈ ds, declarationFault d = none) ∧ (ds.map (·.name)).Nodup ∧
        (∀ d ∈ ds, d.name ∉ before.map (·.name)) ∧
          .ofList ((before ++ ds).map Declaration.entry) = result := by
  induction ds generalizing before with
  | nil => simp [declareAll]
  | cons d rest ih =>
      have first : declareAll (.ofList (before.map Declaration.entry)) (d :: rest) = .ok result ↔
          ∃ next, declare (.ofList (before.map Declaration.entry)) d = .ok next ∧
            declareAll next rest = .ok result := by
        rw [declareAll]
        cases declare (.ofList (before.map Declaration.entry)) d <;> simp
      have later : (∀ e ∈ rest, e.name ∉ (before ++ [d]).map (·.name)) ↔
          d.name ∉ rest.map (·.name) ∧ ∀ e ∈ rest, e.name ∉ before.map (·.name) := by
        simp only [List.map_append, List.map_singleton, List.mem_append, List.mem_singleton,
          not_or, List.mem_map, not_exists, not_and]
        exact ⟨
          fun fresh => ⟨fun e member => (fresh e member).2, fun e member => (fresh e member).1⟩,
          fun ⟨differ, fresh⟩ e member => ⟨fresh e member, differ e member⟩⟩
      rw [first, List.map_cons, List.nodup_cons, List.forall_mem_cons, List.forall_mem_cons,
        List.append_cons]
      constructor
      · rintro ⟨next, isNext, added⟩
        obtain ⟨faultless, free, rfl⟩ := declare_ofList.1 isNext
        obtain ⟨others, differ, fresh, same⟩ := ih.1 added
        obtain ⟨notLater, notBefore⟩ := later.1 fresh
        exact ⟨⟨faultless, others⟩, ⟨notLater, differ⟩, ⟨free, notBefore⟩, same⟩
      · rintro ⟨⟨faultless, others⟩, ⟨notLater, differ⟩, ⟨free, notBefore⟩, same⟩
        exact ⟨_, declare_ofList.2 ⟨faultless, free, rfl⟩,
          ih.2 ⟨others, differ, later.2 ⟨notLater, notBefore⟩, same⟩⟩

theorem declareAll_eq_ok :
    declareAll .empty ds = .ok result ↔
      (∀ d ∈ ds, declarationFault d = none) ∧ (ds.map (·.name)).Nodup ∧
        .ofList (ds.map Declaration.entry) = result := by
  have added : declareAll .empty ds = .ok result ↔ _ := @declareAll_ofList [] ds result
  simpa using added

end

/-! ## Accepted registries -/

theorem build_eq_ok {ds : List Declaration} {r : Registry} :
    build ds = .ok r ↔
      declareAll .empty ds = .ok r.collections ∧
        ∀ c ∈ r.toList, collectionFault r.collections c = none := by
  rw [build]
  cases declared : declareAll .empty ds with
  | error fault => simp
  | ok collections =>
      dsimp only
      cases faults : collections.values.findSome? (collectionFault collections) with
      | some fault =>
          obtain ⟨c, member, isFault⟩ := List.exists_of_findSome?_eq_some faults
          simp only [reduceCtorEq, false_iff, Except.ok.injEq, not_and]
          rintro rfl faultless
          rw [faultless c member] at isFault
          cases isFault
      | none =>
          simp only [Except.ok.injEq]
          constructor
          · rintro rfl
            exact ⟨rfl, List.findSome?_eq_none_iff.1 faults⟩
          · rintro ⟨rfl, _⟩
            rfl

section
variable {ds : List Declaration} {r : Registry}

/-- A collection of a registry is that of one of its declarations. -/
theorem exists_declaration (built : build ds = .ok r) {name : String} {c : Collection}
    (found : r.collection name = .ok c) :
    ∃ d ∈ ds, d.name = name ∧ d.toCollection = c ∧ declarationFault d = none := by
  obtain ⟨faultless, _, same⟩ := declareAll_eq_ok.1 (build_eq_ok.1 built).1
  rw [collection_eq_ok, ← same] at found
  obtain ⟨d, member, isEntry⟩ := List.mem_map.1 (KeyMap.mem_of_find?_ofList found)
  cases isEntry
  exact ⟨d, member, rfl, rfl, faultless d member⟩

theorem associationFault_of_find? {collections : KeyMap Collection} {c target : Collection}
    {a : Association} (found : collections.find? a.target = some target) :
    associationFault collections c a =
      if (a.referenced c target).isComposite then
        some (.compositeReference c.name a.name (a.referenced c target).name)
      else if ((a.owner c target).fieldByColumn? a.foreignKey).isNone then
        some (.foreignKeyMissing c.name a.name (a.owner c target).name a.foreignKey)
      else none := by
  rw [associationFault, found, Association.referenced, Association.owner]
  cases a.kind <;> rfl

/-- Without fault, an association reaches a collection. -/
theorem associationFault_eq_none_iff {collections : KeyMap Collection} {c : Collection}
    {a : Association} :
    associationFault collections c a = none ↔
      ∃ target, collections.find? a.target = some target ∧ a.IsLink c target := by
  cases found : collections.find? a.target with
  | none => simp [associationFault, found]
  | some target =>
      have isLink : a.IsLink c target ↔ (a.referenced c target).isComposite = false ∧
          ∃ f, (a.owner c target).fieldByColumn? a.foreignKey = some f :=
        ⟨fun link => ⟨link.simple, link.foreignKey⟩, fun ⟨simple, isField⟩ => ⟨simple, isField⟩⟩
      simp only [associationFault_of_find? found, Option.some.injEq, exists_eq_left', isLink]
      cases (a.referenced c target).isComposite with
      | true => simp
      | false =>
          cases (a.owner c target).fieldByColumn? a.foreignKey with
          | none => simp
          | some f => simp

/-- Every association of a collection of the registry reaches one. -/
theorem exists_link (built : build ds = .ok r) {c : Collection} (held : c ∈ r.toList)
    {a : Association} (member : a ∈ c.associations) :
    ∃ target, r.collection a.target = .ok target ∧ a.IsLink c target := by
  have faultless := (build_eq_ok.1 built).2 c held
  rw [collectionFault, List.findSome?_eq_none_iff] at faultless
  obtain ⟨target, found, link⟩ := associationFault_eq_none_iff.1 (faultless a member)
  exact ⟨target, collection_eq_ok.2 found, link⟩

end

end Registry

end Backoffice
