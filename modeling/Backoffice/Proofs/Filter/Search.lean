import Backoffice.Filter.Search
import Backoffice.Proofs.Filter.Paths

/-!
# Searches

A search looks up the paths of `Context.Searches` and asks the fields it finds.  The paths
are those of its candidates (`Context.candidates`), in their order, and each field that
takes part gives a condition (`Context.search_eq_any`).

It succeeds when its text is short enough and each of these paths means a field
(`Context.exists_search`): a single path that means none is enough to make it fail.
-/

namespace Backoffice

namespace Context

/-- The paths that a search looks up. -/
inductive Searches (ctx : Context) (extended : Bool) : String → Prop where
  | own {f : Field} (candidate : f ∈ ctx.collection.searchCandidates) : Searches ctx extended f.name
  | through {a : Association} {target : Collection} {g : Field} (isExtended : extended = true)
      (member : a ∈ ctx.collection.toOneAssociations)
      (reaches : ctx.registry.collection a.target = .ok target)
      (candidate : g ∈ target.searchCandidates) :
      Searches ctx extended (FieldPath.through a.name g.name)

/-- The associations that a search goes through. -/
def searchedAssociations (ctx : Context) (extended : Bool) : List Association :=
  if extended then ctx.collection.toOneAssociations else []

variable {ctx : Context} {text : String} {extended : Bool}

theorem mem_searchedAssociations {a : Association} :
    a ∈ ctx.searchedAssociations extended ↔
      extended = true ∧ a ∈ ctx.collection.toOneAssociations := by
  rw [searchedAssociations]
  split
  next isExtended => simp [isExtended]
  next notExtended => simp [notExtended]

/-! ## Steps of a search -/

theorem searchLeaves_eq_ok {paths : List String} {leaves : List Predicate} :
    ctx.searchLeaves text paths = .ok leaves ↔
      ∃ fields, paths.mapM ctx.resolve = .ok fields ∧
        fields.filterMap (·.searchLeaf? ctx.dialect text) = leaves := by
  simp [searchLeaves, Except.bind_eq_ok, pure, Except.pure]

theorem searchLeavesThrough_eq {a : Association} {target : Collection}
    (reaches : ctx.registry.collection a.target = .ok target) :
    ctx.searchLeavesThrough text a = ctx.searchLeaves text
      (target.searchCandidates.map fun g => FieldPath.through a.name g.name) := by
  have paths : ctx.searchPathsThrough a =
      .ok (target.searchCandidates.map fun g => FieldPath.through a.name g.name) := by
    rw [searchPathsThrough, reaches]
  rw [searchLeavesThrough, paths]
  rfl

theorem searchLeavesThrough_eq_ok {a : Association} {leaves : List Predicate} :
    ctx.searchLeavesThrough text a = .ok leaves ↔
      ∃ target, ctx.registry.collection a.target = .ok target ∧ ctx.searchLeaves text
        (target.searchCandidates.map fun g => FieldPath.through a.name g.name) = .ok leaves := by
  cases reaches : ctx.registry.collection a.target with
  | error e => simp [searchLeavesThrough, searchPathsThrough, reaches, Except.bind_eq_ok]
  | ok target => simp [searchLeavesThrough_eq reaches]

theorem search_eq_ok {tree : FilterTree Predicate} :
    ctx.search text extended = .ok tree ↔
      text.utf8ByteSize ≤ searchTextLimit ∧ ∃ own reached,
        ctx.searchLeaves text ctx.ownSearchPaths = .ok own ∧
        (ctx.searchedAssociations extended).mapM (ctx.searchLeavesThrough text) = .ok reached ∧
        .any ((own ++ reached.flatten).map .leaf) = tree := by
  rw [search]
  by_cases tooLong : searchTextLimit < text.utf8ByteSize
  · rw [if_pos tooLong]
    simp [Nat.not_le.2 tooLong]
  · rw [if_neg tooLong]
    rw [Nat.not_lt] at tooLong
    cases extended with
    | false => simp [Except.bind_eq_ok, searchedAssociations, tooLong, pure, Except.pure]
    | true => simp [Except.bind_eq_ok, searchedAssociations, tooLong, pure, Except.pure]

/-! ## Fields of a search -/

/-- The fields that a search looks at through an association. -/
def candidatesThrough (ctx : Context) (a : Association) : List ResolvedField :=
  match ctx.registry.collection a.target with
  | .ok target => target.searchCandidates.map a.reached
  | .error _ => []

/-- The fields that a search looks at, in the order it does. -/
def candidates (ctx : Context) (extended : Bool) : List ResolvedField :=
  ctx.collection.searchCandidates.map ctx.own ++
    (ctx.searchedAssociations extended).flatMap ctx.candidatesThrough

/-- The fields that are found under the paths of some candidates. -/
def Finds (ctx : Context) (candidates fields : List ResolvedField) : Prop :=
  List.Forall₂ (fun candidate f => ctx.resolve candidate.path = .ok f) candidates fields

theorem candidatesThrough_eq {a : Association} {target : Collection}
    (reaches : ctx.registry.collection a.target = .ok target) :
    ctx.candidatesThrough a = target.searchCandidates.map a.reached := by
  rw [candidatesThrough, reaches]

theorem finds_of_searchLeaves {candidates : List ResolvedField} {leaves : List Predicate}
    (searched : ctx.searchLeaves text (candidates.map (·.path)) = .ok leaves) :
    ∃ fields, ctx.Finds candidates fields ∧
      fields.filterMap (·.searchLeaf? ctx.dialect text) = leaves := by
  obtain ⟨fields, found, isLeaves⟩ := searchLeaves_eq_ok.1 searched
  rw [mapM_eq_ok, List.forall₂_map_left_iff] at found
  exact ⟨fields, found, isLeaves⟩

theorem finds_of_searchLeavesThrough {associations : List Association}
    {leaves : List (List Predicate)}
    (searched : associations.mapM (ctx.searchLeavesThrough text) = .ok leaves) :
    ∃ fields, ctx.Finds (associations.flatMap ctx.candidatesThrough) fields ∧
      fields.filterMap (·.searchLeaf? ctx.dialect text) = leaves.flatten := by
  rw [mapM_eq_ok] at searched
  induction searched with
  | nil => exact ⟨[], .nil, rfl⟩
  | @cons a first rest others isFirst _ ih =>
      obtain ⟨target, reaches, isFirst⟩ := searchLeavesThrough_eq_ok.1 isFirst
      have paths : (target.searchCandidates.map fun g => FieldPath.through a.name g.name) =
          (ctx.candidatesThrough a).map (·.path) := by
        rw [candidatesThrough_eq reaches, List.map_map]
        rfl
      rw [paths] at isFirst
      obtain ⟨fields, found, isLeaves⟩ := finds_of_searchLeaves isFirst
      obtain ⟨later, laterFound, laterLeaves⟩ := ih
      refine ⟨fields ++ later, List.rel_append found laterFound, ?_⟩
      rw [List.filterMap_append, isLeaves, laterLeaves, List.flatten_cons]

/-- A search asks for at least one condition, of those of the fields that are found under the
paths of the candidates and take part. -/
theorem search_eq_any {tree : FilterTree Predicate}
    (searched : ctx.search text extended = .ok tree) :
    ∃ fields, ctx.Finds (ctx.candidates extended) fields ∧
      tree = .any ((fields.filterMap (·.searchLeaf? ctx.dialect text)).map .leaf) := by
  obtain ⟨_, own, reached, isOwn, isReached, rfl⟩ := search_eq_ok.1 searched
  have paths : ctx.ownSearchPaths =
      (ctx.collection.searchCandidates.map ctx.own).map (·.path) := by
    rw [ownSearchPaths, List.map_map]
    rfl
  rw [paths] at isOwn
  obtain ⟨fields, found, isLeaves⟩ := finds_of_searchLeaves isOwn
  obtain ⟨later, laterFound, laterLeaves⟩ := finds_of_searchLeavesThrough isReached
  refine ⟨fields ++ later, List.rel_append found laterFound, ?_⟩
  rw [List.filterMap_append, isLeaves, laterLeaves]

/-! ## When a search succeeds -/

theorem exists_searchLeaves {paths : List String} :
    (∃ leaves, ctx.searchLeaves text paths = .ok leaves) ↔
      ∀ path ∈ paths, ∃ g, ctx.resolve path = .ok g := by
  rw [← exists_mapM_eq_ok]
  simp [searchLeaves_eq_ok]

theorem exists_search
    (reach : ∀ a ∈ ctx.collection.toOneAssociations,
      ∃ target, ctx.registry.collection a.target = .ok target) (text : String) (extended : Bool) :
    (∃ tree, ctx.search text extended = .ok tree) ↔
      text.utf8ByteSize ≤ searchTextLimit ∧
        ∀ path, ctx.Searches extended path → ∃ g, ctx.resolve path = .ok g := by
  constructor
  · rintro ⟨tree, searched⟩
    obtain ⟨short, own, reached, isOwn, isReached, _⟩ := search_eq_ok.1 searched
    refine ⟨short, fun path isSearched => ?_⟩
    cases isSearched with
    | own candidate =>
        exact exists_searchLeaves.1 ⟨own, isOwn⟩ _ (List.mem_map_of_mem candidate)
    | through isExtended member reaches candidate =>
        obtain ⟨leaves, _, isLeaves⟩ :=
          exists_result_of_mem isReached (mem_searchedAssociations.2 ⟨isExtended, member⟩)
        rw [searchLeavesThrough_eq reaches] at isLeaves
        exact exists_searchLeaves.1 ⟨leaves, isLeaves⟩ _ (List.mem_map_of_mem candidate)
  · rintro ⟨short, each⟩
    obtain ⟨own, isOwn⟩ : ∃ own, ctx.searchLeaves text ctx.ownSearchPaths = .ok own := by
      refine exists_searchLeaves.2 fun path member => ?_
      obtain ⟨f, candidate, rfl⟩ := List.mem_map.1 member
      exact each _ (.own candidate)
    obtain ⟨reached, isReached⟩ : ∃ reached,
        (ctx.searchedAssociations extended).mapM (ctx.searchLeavesThrough text) = .ok reached := by
      refine exists_mapM_eq_ok.2 fun a member => ?_
      obtain ⟨isExtended, member⟩ := mem_searchedAssociations.1 member
      obtain ⟨target, reaches⟩ := reach a member
      rw [searchLeavesThrough_eq reaches]
      refine exists_searchLeaves.2 fun path isPath => ?_
      obtain ⟨g, candidate, rfl⟩ := List.mem_map.1 isPath
      exact each _ (.through isExtended member reaches candidate)
    exact ⟨_, search_eq_ok.2 ⟨short, own, reached, isOwn, isReached, rfl⟩⟩

end Context

/-- In a search for a text that is neither a number nor a UUID, text and enum fields take part
and no others. -/
theorem ResolvedField.isSome_searchOperand? {f : ResolvedField} {text : String}
    (notUuid : Uuid.read? text.toList = none) (notNumber : Operand.number? text.toList = none) :
    (f.searchOperand? text).isSome = decide (f.type = .string ∨ f.type = .enum) := by
  rw [searchOperand?, notUuid, notNumber]
  cases f.type with
  | string | enum | uuid | number | boolean | date | dateonly | json | unsupported => rfl

/-- A search looks at fields. -/
theorem Collection.mem_of_searchCandidates {c : Collection} {f : Field}
    (candidate : f ∈ c.searchCandidates) : f ∈ c.fields := by
  rw [searchCandidates] at candidate
  split at candidate
  next names =>
    obtain ⟨name, _, found⟩ := List.mem_filterMap.1 candidate
    exact (field_of_field? found).1
  next => exact List.mem_of_mem_filter candidate

end Backoffice
