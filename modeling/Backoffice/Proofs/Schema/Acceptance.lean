import Backoffice.Proofs.Filter.Paths
import Backoffice.Proofs.Sample
import Backoffice.Proofs.Schema.Registry
import Backoffice.Schema.Description

/-!
# Declarations in any order

A registry is built of declarations that are sound, have names of their own and have
associations that reach one of them (`Registry.Accepts`).  None of this depends on the order of
the declarations, and what is held is under the names, so the registry does not either
(`registries_ignore_order`), although the first fault found may.

*Faults.*  Adding the declarations one after the other succeeds under the first two conditions
(`Registry.declareAll_eq_ok`).  Whether an association reaches a collection is asked of the
registry with all of them in it, so a declaration may refer to a later one, and two of them to
each other.

*What is held.*  Under different names the map of all entries holds each of them, and the map
is the same in every order (`KeyMap.entries_ofList_perm`, `KeyMap.ofList_perm`).
-/

namespace Backoffice

/-! ## Conditions of acceptance -/

namespace Registry

/-- What a registry can be built of. -/
structure Accepts (ds : List Declaration) : Prop where
  /-- No two declarations have one name. -/
  namesDiffer : (ds.map (·.name)).Nodup
  sound : ∀ d ∈ ds, d.IsSound
  /-- Every association reaches the collection of a declaration. -/
  linked : ∀ d ∈ ds, ∀ a ∈ d.associations, ∃ target ∈ ds,
    target.name = a.target ∧ a.IsLink d.toCollection target.toCollection

theorem Accepts.perm {ds es : List Declaration} (accepts : Accepts ds) (perm : ds.Perm es) :
    Accepts es where
  namesDiffer := (perm.map _).nodup_iff.1 accepts.namesDiffer
  sound d member := accepts.sound d (perm.mem_iff.2 member)
  linked d member a isAssociation := by
    obtain ⟨target, isTarget, reached⟩ := accepts.linked d (perm.mem_iff.2 member) a isAssociation
    exact ⟨target, perm.mem_iff.1 isTarget, reached⟩

section
variable {ds : List Declaration} (differ : (ds.map (·.name)).Nodup)

include differ

theorem entries_differ : ((ds.map Declaration.entry).map Prod.fst).Nodup := by
  rw [List.map_map]
  exact differ

/-- Under different names every declaration is found. -/
theorem find?_entries {name : String} {c : Collection} :
    (KeyMap.ofList (ds.map Declaration.entry)).find? name = some c ↔
      ∃ d ∈ ds, d.name = name ∧ d.toCollection = c := by
  rw [KeyMap.find?_ofList_iff_mem (entries_differ differ), List.mem_map]
  simp only [Declaration.entry, Prod.mk.injEq]

end

section
variable {ds : List Declaration} {r : Registry}

/-- The collections of a registry of some declarations reach each other when the declarations
do. -/
theorem faultless_iff_linked (differ : (ds.map (·.name)).Nodup)
    (isMade : .ofList (ds.map Declaration.entry) = r.collections) :
    (∀ c ∈ r.toList, collectionFault r.collections c = none) ↔
      ∀ d ∈ ds, ∀ a ∈ d.associations, ∃ target ∈ ds,
        target.name = a.target ∧ a.IsLink d.toCollection target.toCollection := by
  have held : ∀ c, c ∈ r.toList ↔ ∃ d ∈ ds, d.toCollection = c := by
    intro c
    rw [toList, KeyMap.mem_values_iff]
    simp only [← isMade, find?_entries differ]
    constructor
    · rintro ⟨_, d, member, _, made⟩
      exact ⟨d, member, made⟩
    · rintro ⟨d, member, made⟩
      exact ⟨d.name, d, member, rfl, made⟩
  have reaches : ∀ c a, associationFault r.collections c a = none ↔
      ∃ target ∈ ds, target.name = a.target ∧ a.IsLink c target.toCollection := by
    intro c a
    rw [associationFault_eq_none_iff]
    simp only [← isMade, find?_entries differ]
    constructor
    · rintro ⟨_, ⟨target, member, named, rfl⟩, link⟩
      exact ⟨target, member, named, link⟩
    · rintro ⟨target, member, named, link⟩
      exact ⟨_, ⟨target, member, named, rfl⟩, link⟩
  simp only [collectionFault, List.findSome?_eq_none_iff, reaches, held]
  constructor
  · intro faultless d member
    exact faultless _ ⟨d, member, rfl⟩
  · rintro linked _ ⟨d, member, rfl⟩
    exact linked d member

/-- A registry is built exactly of what it accepts, and it holds the entries of all
declarations. -/
theorem build_eq_ok_iff_accepts :
    build ds = .ok r ↔
      Accepts ds ∧ .ofList (ds.map Declaration.entry) = r.collections := by
  simp only [build_eq_ok, declareAll_eq_ok, declarationFault_eq_none_iff]
  constructor
  · rintro ⟨⟨sound, differ, isMade⟩, faultless⟩
    exact ⟨⟨differ, sound, (faultless_iff_linked differ isMade).1 faultless⟩, isMade⟩
  · rintro ⟨accepts, isMade⟩
    exact ⟨⟨accepts.sound, accepts.namesDiffer, isMade⟩,
      (faultless_iff_linked accepts.namesDiffer isMade).2 accepts.linked⟩

theorem exists_build_iff : (∃ r, build ds = .ok r) ↔ Accepts ds := by
  simp only [build_eq_ok_iff_accepts]
  exact ⟨fun ⟨_, accepts, _⟩ => accepts, fun accepts => ⟨⟨_⟩, accepts, rfl⟩⟩

end

/-! ## What is held -/

/-- What a registry holds of the declarations it was built of. -/
structure Keeps (r : Registry) (ds : List Declaration) : Prop where
  /-- There is one collection for each declaration. -/
  collections : r.toList.Perm (ds.map Declaration.toCollection)
  /-- The collections are in the order of their names. -/
  ordered : (r.toList.map (·.name)).Pairwise (· < ·)
  /-- Each is found under the name of its declaration. -/
  named : ∀ d ∈ ds, r.collection d.name = .ok d.toCollection
  /-- There is no other name. -/
  unnamed : ∀ name, (∀ d ∈ ds, d.name ≠ name) → r.collection name = .error (.unknownCollection name)
  /-- There is one document for each declaration. -/
  documents : r.documents.Perm (ds.map fun d => r.document d.toCollection)
  /-- Every association reaches a collection that is held. -/
  linked : ∀ c ∈ r.toList, ∀ a ∈ c.associations, ∃ target ∈ r.toList,
    r.collection a.target = .ok target ∧ a.IsLink c target
  /-- Every chosen search field is a described field that a search can look at. -/
  searchable : ∀ c ∈ r.toList, ∀ names, c.searchFields = some names → ∀ name ∈ names,
    ∃ f ∈ c.fields, f.name = name ∧ f.type.isSearchable = true

section
variable {ds : List Declaration} {r : Registry}

/-- The entries of a registry are those of its declarations, in some order. -/
theorem entries_perm (built : build ds = .ok r) :
    r.collections.entries.Perm (ds.map Declaration.entry) := by
  obtain ⟨accepts, isMade⟩ := build_eq_ok_iff_accepts.1 built
  rw [← isMade]
  exact KeyMap.entries_ofList_perm (entries_differ accepts.namesDiffer)

/-- The collections of a registry are those of its declarations, in some order. -/
theorem toList_perm (built : build ds = .ok r) :
    r.toList.Perm (ds.map Declaration.toCollection) := by
  have perm := (entries_perm built).map Prod.snd
  rwa [List.map_map] at perm

theorem collection_eq_ok_iff_declared (built : build ds = .ok r) {name : String} {c : Collection} :
    r.collection name = .ok c ↔ ∃ d ∈ ds, d.name = name ∧ d.toCollection = c := by
  obtain ⟨accepts, isMade⟩ := build_eq_ok_iff_accepts.1 built
  rw [collection_eq_ok, ← isMade, find?_entries accepts.namesDiffer]

theorem keeps (built : build ds = .ok r) : r.Keeps ds where
  collections := toList_perm built
  ordered := by
    -- every collection has the name that it is found under
    have names : r.toList.map (·.name) = r.collections.keys := by
      rw [toList, KeyMap.values, KeyMap.keys, List.map_map]
      refine List.map_congr_left fun entry member => ?_
      obtain ⟨d, _, rfl⟩ := List.mem_map.1 ((entries_perm built).mem_iff.1 member)
      rfl
    rw [names, KeyMap.keys, List.pairwise_map]
    exact r.collections.rising
  named d member := (collection_eq_ok_iff_declared built).2 ⟨d, member, rfl, rfl⟩
  unnamed name unknown := by
    rw [collection]
    cases found : r.collections.find? name with
    | none => rfl
    | some c =>
        obtain ⟨d, member, named, _⟩ :=
          (collection_eq_ok_iff_declared built).1 (collection_eq_ok.2 found)
        exact absurd named (unknown d member)
  documents := by
    have perm := (toList_perm built).map r.document
    rwa [List.map_map] at perm
  linked c held a member := by
    obtain ⟨target, reaches, link⟩ := exists_link built held member
    exact ⟨target, mem_toList.2 ⟨_, reaches⟩, reaches, link⟩
  searchable c held names isChosen name member := by
    obtain ⟨_, found⟩ := mem_toList.1 held
    obtain ⟨d, _, _, rfl, faultless⟩ := exists_declaration built found
    obtain ⟨f, isField, searchable⟩ :=
      (declarationFault_eq_none_iff.1 faultless).searchable names isChosen name member
    obtain ⟨listed, named⟩ := Collection.field_of_field? isField
    exact ⟨f, listed, named, searchable⟩

end

/-- A registry is built of declarations in one order exactly when it is in another one, and
then it is the same registry, with the same documents.  It is built whenever the declarations
are acceptable, and holds one collection for each, all of whose associations reach collections
that are held and all of whose chosen search fields can be searched. -/
theorem registries_ignore_order {ds es : List Declaration} (perm : ds.Perm es) :
    (∀ r, build ds = .ok r ↔ build es = .ok r) ∧
      ((∃ r, build ds = .ok r) ↔ Accepts ds) ∧
      ∀ r, build ds = .ok r → r.Keeps ds := by
  refine ⟨fun r => ?_, exists_build_iff, fun r built => keeps built⟩
  rw [build_eq_ok_iff_accepts, build_eq_ok_iff_accepts]
  have acceptsBoth : Accepts ds ↔ Accepts es :=
    ⟨fun accepts => accepts.perm perm, fun accepts => accepts.perm perm.symm⟩
  rw [← acceptsBoth]
  refine and_congr_right fun accepts => ?_
  rw [KeyMap.ofList_perm (entries_differ accepts.namesDiffer) (perm.map Declaration.entry)]

end Registry

namespace Sample

/-- Articles and authors refer to each other, and the first of them to one that comes later, in
either order. -/
theorem registries_ignore_order_of_articles :
    [article, author, log].Perm [log, author, article] ∧
      Registry.build [log, author, article] = .ok registry ∧
      registry.Keeps [article, author, log] := by
  have perm : [article, author, log].Perm [log, author, article] :=
    (List.reverse_perm [log, author, article])
  obtain ⟨same, _, keeps⟩ := Registry.registries_ignore_order perm
  exact ⟨perm, (same registry).1 build_declarations, keeps registry build_declarations⟩

end Sample

end Backoffice
