import Backoffice.Listing.Base
import Backoffice.Proofs.Filter.Legality
import Backoffice.Proofs.Filter.Search
import Backoffice.Proofs.Listing.Joins
import Backoffice.Proofs.Sql.Erasure
import Backoffice.Statistics.Request

/-!
# Filters without their values

What is left of a compiled condition when its value is erased depends on the field and on the
operator alone (`ResolvedField.erased_formula`).  Trees are alike when they are built in one
way of conditions of which the same is left.  Filters with other values and another search
text give alike trees (`Context.alike_compose`), as long as the values choose the same
operators and the same fields take part in the search, and alike trees give statements of
which the same is left.
-/

namespace Backoffice

open Sql (Formula Value)

/-! ## Alike conditions -/

/-- What is left of a condition. -/
def Predicate.erased (p : Predicate) : Option String × Formula := (p.association, p.formula.erased)

/-- The same is left of two conditions. -/
def Predicate.Alike (p p' : Predicate) : Prop := p.erased = p'.erased

namespace ResolvedField

variable {f : ResolvedField} {ctx : Context} {c : Condition} {formula : Formula}

/-- What is left of a text match. -/
def erasedMatch (f : ResolvedField) (d : Sql.Dialect) (caseSensitive : Bool) : Formula :=
  .fits (d.matchStyle caseSensitive) (f.textSubject d) ""

/-- What is left of a comparison. -/
def erasedCompare (f : ResolvedField) (comparison : Sql.Comparison) : Formula :=
  f.compares comparison .blank

/-- What is left of the formula of an operator. -/
def erasedFormula (f : ResolvedField) (ctx : Context) : Operator → Formula
  | .equals => .compare .equal (f.equalitySubject ctx.dialect) .blank
  | .notEquals => .compare .notEqual (f.equalitySubject ctx.dialect) .blank
  | .greaterThan | .hoursAfter => f.erasedCompare .greater
  | .lessThan | .hoursBefore => f.erasedCompare .less
  | .contains | .startsWith | .endsWith => f.erasedMatch ctx.dialect ctx.caseSensitive
  | .notContains => .or (.not (f.erasedMatch ctx.dialect ctx.caseSensitive)) (.isNull f.ref)
  | .isNull => .isNull f.ref
  | .isNotNull => .isNotNull f.ref
  | .isTrue | .isFalse => f.erasedCompare .equal
  | .isNotTrue | .isNotFalse => f.erasedCompare .notEqual
  | .isPresent => .and (.isNotNull f.ref) (f.erasedCompare .notEqual)
  | .isBlank => .or (.isNull f.ref) (f.erasedCompare .equal)

theorem erased_equalityFormula {d : Sql.Dialect} {comparison : Sql.Comparison}
    (isFormula : f.equalityFormula d comparison c = .ok formula) :
    formula.erased = .compare comparison (f.equalitySubject d) .blank := by
  obtain ⟨value, _, _, rfl⟩ := equalityFormula_eq_ok.1 isFormula
  rfl

theorem erased_orderFormula {comparison : Sql.Comparison}
    (isFormula : f.orderFormula comparison c = .ok formula) :
    formula.erased = f.erasedCompare comparison := by
  rw [orderFormula] at isFormula
  split at isFormula
  next => cases isFormula
  next =>
    cases isFormula
    rfl

theorem erased_textFormula (isFormula : f.textFormula ctx c = .ok formula) :
    formula.erased = f.erasedMatch ctx.dialect ctx.caseSensitive := by
  rw [textFormula] at isFormula
  split at isFormula
  next =>
    cases isFormula
    rfl
  next => cases isFormula

theorem erased_hoursFormula {comparison : Sql.Comparison}
    (isFormula : f.hoursFormula ctx comparison c = .ok formula) :
    formula.erased = f.erasedCompare comparison := by
  obtain ⟨_, _, _, _, _, _, rfl⟩ := hoursFormula_eq_ok.1 isFormula
  rfl

/-- What is left of a formula depends on the field and the operator. -/
theorem erased_formula (isFormula : f.formula ctx c = .ok formula) :
    formula.erased = f.erasedFormula ctx c.operator := by
  rw [ResolvedField.formula] at isFormula
  cases operator : c.operator with
  | equals | notEquals =>
      rw [operator] at isFormula
      exact erased_equalityFormula isFormula
  | greaterThan | lessThan =>
      rw [operator] at isFormula
      exact erased_orderFormula isFormula
  | contains | startsWith | endsWith =>
      rw [operator] at isFormula
      exact erased_textFormula isFormula
  | notContains =>
      rw [operator] at isFormula
      obtain ⟨found, isFound, rfl⟩ := Except.map_eq_ok.1 isFormula
      show Formula.or (.not found.erased) (.isNull f.ref) = _
      rw [erased_textFormula isFound]
      rfl
  | hoursBefore | hoursAfter =>
      rw [operator] at isFormula
      exact erased_hoursFormula isFormula
  | isNull | isNotNull | isTrue | isFalse | isNotTrue | isNotFalse | isPresent | isBlank =>
      rw [operator] at isFormula
      cases isFormula
      rfl

theorem erased_compile {p : Predicate} (compiled : f.compile ctx c = .ok p) :
    p.erased = (f.associationName, f.erasedFormula ctx c.operator) := by
  obtain ⟨_, formula, isFormula, rfl⟩ := compile_eq_ok.1 compiled
  rw [Predicate.erased, predicate, erased_formula isFormula]

/-- What is left of what a search asks of the field. -/
def erasedSearch (f : ResolvedField) (d : Sql.Dialect) : Formula :=
  if f.type = .string ∨ f.type = .enum then f.erasedMatch d false else f.erasedCompare .equal

/-- What is left of the formula of a search depends on the field. -/
theorem erased_searchFormula {d : Sql.Dialect} {text : String} {operator : Operator}
    {operand : Operand} (asked : f.searchOperand? text = some (operator, operand)) :
    (f.searchFormula d operand).erased = f.erasedSearch d := by
  rw [searchOperand?] at asked
  rw [erasedSearch]
  cases type : f.type with
  | string | enum =>
      simp only [type] at asked
      cases asked
      rfl
  | uuid =>
      simp only [type] at asked
      obtain ⟨u, _, isPair⟩ := Option.map_eq_some_iff.1 asked
      cases isPair
      rfl
  | number =>
      simp only [type] at asked
      obtain ⟨_, isNumber, isPair⟩ := Option.map_eq_some_iff.1 asked
      cases isPair
      rw [Operand.number?] at isNumber
      split at isNumber
      next =>
        cases isNumber
        rfl
      next =>
        obtain ⟨x, _, rfl⟩ := Option.map_eq_some_iff.1 isNumber
        rfl
  | boolean | date | dateonly | json | unsupported =>
      simp only [type] at asked
      cases asked

/-- Two search texts ask alike of a field that takes part in both searches or in neither. -/
theorem alike_searchLeaf? (d : Sql.Dialect) {text other : String}
    (same : (f.searchOperand? text).isSome = (f.searchOperand? other).isSome) :
    Option.Rel Predicate.Alike (f.searchLeaf? d text) (f.searchLeaf? d other) := by
  rw [searchLeaf?, searchLeaf?]
  cases asked : f.searchOperand? text with
  | none =>
      rw [asked, Option.isSome_none, eq_comm, Option.isSome_eq_false_iff, Option.isNone_iff_eq_none]
        at same
      rw [same]
      exact .none
  | some pair =>
      rw [asked, Option.isSome_some, eq_comm, Option.isSome_iff_exists] at same
      obtain ⟨otherPair, otherAsked⟩ := same
      rw [otherAsked]
      refine .some ?_
      show (f.associationName, (f.searchFormula d pair.2).erased) =
        (f.associationName, (f.searchFormula d otherPair.2).erased)
      rw [erased_searchFormula asked, erased_searchFormula otherAsked]

end ResolvedField

/-! ## Alike trees -/

/-- Two trees of conditions need the same joins, and the same is left of their formulas. -/
structure FilterTree.Alike (tree other : FilterTree Predicate) : Prop where
  associations_eq : tree.leaves.filterMap (·.association) = other.leaves.filterMap (·.association)
  matchesEverything_eq : tree.matchesEverything = other.matchesEverything
  erased_eq : tree.formula.erased = other.formula.erased

namespace FilterTree

variable {tree other : FilterTree Predicate} {trees others : List (FilterTree Predicate)}

theorem alike_leaf {p q : Predicate} (alike : p.Alike q) : (leaf p).Alike (leaf q) where
  associations_eq := by
    have same : p.association = q.association := congrArg Prod.fst alike
    rw [leaves, leaves, List.filterMap_cons, List.filterMap_cons, same]
  matchesEverything_eq := by rw [matchesEverything, matchesEverything]
  erased_eq := by
    rw [formula, formula, lower, lower]
    exact congrArg Prod.snd alike

section
variable (alike : List.Forall₂ Alike trees others)

include alike

theorem associations_leavesOf : (leavesOf trees).filterMap (·.association) =
    (leavesOf others).filterMap (·.association) := by
  induction alike with
  | nil => rfl
  | cons first _ ih =>
      rw [leavesOf, leavesOf, List.filterMap_append, List.filterMap_append, first.associations_eq,
        ih]

theorem allMatchEverything_eq : allMatchEverything trees = allMatchEverything others := by
  induction alike with
  | nil => rfl
  | cons first _ ih =>
      rw [allMatchEverything, allMatchEverything, first.matchesEverything_eq, ih]

theorem map_erased_lowerNeeded : (lowerNeeded Predicate.formula trees).map Formula.erased =
    (lowerNeeded Predicate.formula others).map Formula.erased := by
  induction alike with
  | nil => rfl
  | cons first _ ih =>
      rw [lowerNeeded, lowerNeeded, first.matchesEverything_eq]
      split
      next => exact ih
      next => exact congrArg₂ List.cons first.erased_eq ih

theorem map_erased_lowerEach : (lowerEach Predicate.formula trees).map Formula.erased =
    (lowerEach Predicate.formula others).map Formula.erased := by
  induction alike with
  | nil => rfl
  | cons first _ ih =>
      rw [lowerEach, lowerEach]
      exact congrArg₂ List.cons first.erased_eq ih

theorem alike_all : (all trees).Alike (all others) where
  associations_eq := by
    rw [leaves, leaves]
    exact associations_leavesOf alike
  matchesEverything_eq := by
    rw [matchesEverything, matchesEverything]
    exact allMatchEverything_eq alike
  erased_eq := by
    rw [formula, formula, lower, lower, Formula.erased_all, Formula.erased_all,
      map_erased_lowerNeeded alike]

theorem alike_any : (any trees).Alike (any others) where
  associations_eq := by
    rw [leaves, leaves]
    exact associations_leavesOf alike
  matchesEverything_eq := by rw [matchesEverything, matchesEverything]
  erased_eq := by
    rw [formula, formula, lower, lower, Formula.erased_any, Formula.erased_any,
      map_erased_lowerEach alike]

theorem alike_join (combinator : Combinator) :
    (combinator.join trees).Alike (combinator.join others) := by
  cases combinator with
  | and => exact alike_all alike
  | or => exact alike_any alike

end

theorem forall₂_alike_leaves {conditions others : List Predicate}
    (alike : List.Forall₂ Predicate.Alike conditions others) :
    List.Forall₂ Alike (conditions.map leaf) (others.map leaf) :=
  List.rel_map (fun _ _ alike => alike_leaf alike) alike

end FilterTree

/-- Statements over alike trees differ in nothing but what is erased. -/
theorem Context.erased_baseSelect {ctx : Context} {tree other : FilterTree Predicate}
    {joined : List String} {s t : Sql.Select} (alike : tree.Alike other)
    (selected : ctx.baseSelect tree joined = .ok s)
    (otherSelected : ctx.baseSelect other joined = .ok t) : s.erased = t.erased := by
  obtain ⟨joins, areJoins, rfl⟩ := baseSelect_eq_ok.1 selected
  obtain ⟨otherJoins, areOtherJoins, rfl⟩ := baseSelect_eq_ok.1 otherSelected
  -- alike trees need the same joins, so only the conditions are left to compare
  have sameAssociations : tree.associations = other.associations := by
    rw [FilterTree.associations, FilterTree.associations, alike.associations_eq]
  rw [sameAssociations, areOtherJoins] at areJoins
  cases areJoins
  have sameCondition : tree.condition?.map Formula.erased =
      other.condition?.map Formula.erased := by
    rw [FilterTree.condition?, FilterTree.condition?, alike.matchesEverything_eq]
    split
    next => rfl
    next => exact congrArg some alike.erased_eq
  rw [Sql.Select.erased, Sql.Select.erased, sameCondition]

/-! ## Alike filters -/

/-- Two compiled entries are of one kind, with alike conditions. -/
inductive CompiledEntry.Alike : CompiledEntry → CompiledEntry → Prop where
  | plain {p q : Predicate} (alike : p.Alike q) : Alike (.plain p) (.plain q)
  | group {members others : List Predicate} (alike : List.Forall₂ Predicate.Alike members others) :
      Alike (.group members) (.group others)

namespace CompiledEntry

variable {entry other : CompiledEntry}

theorem Alike.plain? (alike : entry.Alike other) :
    Option.Rel Predicate.Alike entry.plain? other.plain? := by
  cases alike with
  | plain alike => exact .some alike
  | group => exact .none

theorem Alike.group? (alike : entry.Alike other) :
    Option.Rel (List.Forall₂ Predicate.Alike) entry.group? other.group? := by
  cases alike with
  | plain => exact .none
  | group alike => exact .some alike

end CompiledEntry

namespace Combinator

section
variable {plain otherPlain groups otherGroups : List (FilterTree Predicate)}

theorem alike_operands (plainAlike : List.Forall₂ FilterTree.Alike plain otherPlain)
    (groupsAlike : List.Forall₂ FilterTree.Alike groups otherGroups) :
    List.Forall₂ FilterTree.Alike (if groups.isEmpty then plain else plain ++ [.any groups])
      (if otherGroups.isEmpty then otherPlain else otherPlain ++ [.any otherGroups]) := by
  cases groupsAlike with
  | nil => exact plainAlike
  | cons first rest =>
      exact List.rel_append plainAlike (.cons (FilterTree.alike_any (.cons first rest)) .nil)

theorem alike_joined (combinator : Combinator) {operands others : List (FilterTree Predicate)}
    (alike : List.Forall₂ FilterTree.Alike operands others) :
    (if operands.isEmpty then .always else combinator.join operands : FilterTree Predicate).Alike
      (if others.isEmpty then .always else combinator.join others) := by
  cases alike with
  | nil => exact FilterTree.alike_all .nil
  | cons first rest => exact FilterTree.alike_join (.cons first rest) combinator

end

/-- The trees of alike entries are alike. -/
theorem alike_tree (combinator : Combinator) {entries others : List CompiledEntry}
    (alike : List.Forall₂ CompiledEntry.Alike entries others) :
    (combinator.tree entries).Alike (combinator.tree others) := by
  have plain : List.Forall₂ FilterTree.Alike
      ((entries.filterMap CompiledEntry.plain?).map .leaf)
      ((others.filterMap CompiledEntry.plain?).map .leaf) :=
    FilterTree.forall₂_alike_leaves (List.rel_filterMap (fun _ _ alike => alike.plain?) alike)
  have groups : List.Forall₂ FilterTree.Alike
      ((entries.filterMap CompiledEntry.group?).map fun members => .all (members.map .leaf))
      ((others.filterMap CompiledEntry.group?).map fun members => .all (members.map .leaf)) :=
    List.rel_map
      (fun _ _ alike => FilterTree.alike_all (FilterTree.forall₂_alike_leaves alike))
      (List.rel_filterMap (fun _ _ alike => alike.group?) alike)
  exact alike_joined combinator (alike_operands plain groups)

end Combinator

namespace Context

variable {ctx : Context}

/-- Two filter values choose one operator on the field of a path. -/
def ChooseAlike (ctx : Context) (path raw other : String) : Prop :=
  ∀ f, ctx.resolve path = .ok f → Grammar.chosen f.type raw = Grammar.chosen f.type other

/-- Two entries of a filter under one key are of one kind, and their values choose the same
operators on the same paths. -/
inductive EntryAlike (ctx : Context) : String → FilterEntry → FilterEntry → Prop where
  | plain {path raw other : String} (alike : ctx.ChooseAlike path raw other) :
      EntryAlike ctx path (.plain raw) (.plain other)
  | group {name : String} {members others : KeyMap String}
      (alike : List.Forall₂ (KeyMap.Related ctx.ChooseAlike) members.entries others.entries) :
      EntryAlike ctx name (.group members) (.group others)

/-- The same fields take part in the searches of two texts. -/
def SearchAlike (ctx : Context) (extended : Bool) (text other : String) : Prop :=
  ∀ path, ctx.Searches extended path → ∀ f, ctx.resolve path = .ok f →
    (f.searchOperand? text).isSome = (f.searchOperand? other).isSome

/-- Two filters differ in values and search text alone: the values choose the same operators
on the same paths, and the search texts are both blank or have the same fields take part. -/
structure FiltersAlike (ctx : Context) (spec other : FilterSpec) : Prop where
  entries_alike :
    List.Forall₂ (KeyMap.Related ctx.EntryAlike) spec.entries.entries other.entries.entries
  combinator_eq : spec.combinator = other.combinator
  extended_eq : spec.extended = other.extended
  search_alike : Option.Rel (ctx.SearchAlike spec.extended) spec.searchText? other.searchText?

/-- Conditions on one field with one operator are alike. -/
theorem alike_compile {f : ResolvedField} {c other : Condition} {p q : Predicate}
    (compiled : f.compile ctx c = .ok p) (otherCompiled : f.compile ctx other = .ok q)
    (same : c.operator = other.operator) : p.Alike q := by
  rw [Predicate.Alike, ResolvedField.erased_compile compiled,
    ResolvedField.erased_compile otherCompiled, same]

theorem alike_compileRaw {path raw other : String} {p q : Predicate}
    (alike : ctx.ChooseAlike path raw other) (compiled : ctx.compileRaw path raw = .ok p)
    (otherCompiled : ctx.compileRaw path other = .ok q) : p.Alike q := by
  obtain ⟨f, resolved, compiled⟩ := Except.bind_eq_ok.1 compiled
  obtain ⟨c, read, compiled⟩ := Except.bind_eq_ok.1 compiled
  obtain ⟨g, otherResolved, otherCompiled⟩ := Except.bind_eq_ok.1 otherCompiled
  obtain ⟨otherRead, isRead, otherCompiled⟩ := Except.bind_eq_ok.1 otherCompiled
  rw [resolved] at otherResolved
  cases otherResolved
  obtain ⟨_, _, _, rfl⟩ := Condition.parse_eq_ok.1 read
  obtain ⟨_, _, _, rfl⟩ := Condition.parse_eq_ok.1 isRead
  exact alike_compile compiled otherCompiled (alike f resolved)

theorem alike_compileEntry {key : String} {entry other : FilterEntry}
    {compiled otherCompiled : CompiledEntry} (alike : ctx.EntryAlike key entry other)
    (isCompiled : ctx.compileEntry (key, entry) = .ok compiled)
    (isOther : ctx.compileEntry (key, other) = .ok otherCompiled) :
    compiled.Alike otherCompiled := by
  cases alike with
  | plain alike =>
      obtain ⟨p, isP, rfl⟩ := Except.map_eq_ok.1 isCompiled
      obtain ⟨q, isQ, rfl⟩ := Except.map_eq_ok.1 isOther
      exact .plain (alike_compileRaw alike isP isQ)
  | group alike =>
      obtain ⟨members, areMembers, rfl⟩ := Except.map_eq_ok.1 isCompiled
      obtain ⟨others, areOthers, rfl⟩ := Except.map_eq_ok.1 isOther
      refine .group (forall₂_of_mapM alike ?_ areMembers areOthers)
      rintro ⟨path, raw⟩ ⟨_, other⟩ p q ⟨rfl, alike⟩ isP isQ
      exact alike_compileRaw alike isP isQ

/-! ## Alike searches -/

section
variable {text other : String}

theorem alike_searchLeaves {paths : List String} {leaves others : List Predicate}
    (alike : ∀ path ∈ paths, ∀ f, ctx.resolve path = .ok f →
      (f.searchOperand? text).isSome = (f.searchOperand? other).isSome)
    (searched : ctx.searchLeaves text paths = .ok leaves)
    (otherSearched : ctx.searchLeaves other paths = .ok others) :
    List.Forall₂ Predicate.Alike leaves others := by
  obtain ⟨fields, areFields, rfl⟩ := searchLeaves_eq_ok.1 searched
  obtain ⟨otherFields, areOtherFields, rfl⟩ := searchLeaves_eq_ok.1 otherSearched
  rw [areFields] at areOtherFields
  cases areOtherFields
  -- the fields do not depend on the text, only which of them take part does
  have takePart : List.Forall₂ (fun f g => f = g ∧
      (f.searchOperand? text).isSome = (f.searchOperand? other).isSome) fields fields := by
    refine List.forall₂_same.2 fun f member => ⟨rfl, ?_⟩
    obtain ⟨path, isPath, resolved⟩ := exists_item_of_mem areFields member
    exact alike path isPath f resolved
  refine List.rel_filterMap ?_ takePart
  rintro f _ ⟨rfl, same⟩
  exact f.alike_searchLeaf? ctx.dialect same

theorem alike_search {extended : Bool} {tree otherTree : FilterTree Predicate}
    (alike : ctx.SearchAlike extended text other) (searched : ctx.search text extended = .ok tree)
    (otherSearched : ctx.search other extended = .ok otherTree) : tree.Alike otherTree := by
  obtain ⟨_, own, reached, isOwn, isReached, rfl⟩ := search_eq_ok.1 searched
  obtain ⟨_, otherOwn, otherReached, isOtherOwn, isOtherReached, rfl⟩ :=
    search_eq_ok.1 otherSearched
  have ownAlike : List.Forall₂ Predicate.Alike own otherOwn := by
    refine alike_searchLeaves (fun path member => ?_) isOwn isOtherOwn
    obtain ⟨f, candidate, rfl⟩ := List.mem_map.1 member
    exact alike _ (.own candidate)
  have reachedAlike : List.Forall₂ (List.Forall₂ Predicate.Alike) reached otherReached := by
    have sameAssociations : List.Forall₂ (fun a b => a = b ∧ a ∈ ctx.searchedAssociations extended)
        (ctx.searchedAssociations extended) (ctx.searchedAssociations extended) :=
      List.forall₂_same.2 fun a member => ⟨rfl, member⟩
    refine forall₂_of_mapM sameAssociations ?_ isReached isOtherReached
    rintro a _ leaves others ⟨rfl, member⟩ areLeaves areOthers
    obtain ⟨isExtended, member⟩ := mem_searchedAssociations.1 member
    obtain ⟨target, reaches, areLeaves⟩ := searchLeavesThrough_eq_ok.1 areLeaves
    rw [searchLeavesThrough_eq reaches] at areOthers
    refine alike_searchLeaves (fun path isPath => ?_) areLeaves areOthers
    obtain ⟨g, candidate, rfl⟩ := List.mem_map.1 isPath
    exact alike _ (.through isExtended member reaches candidate)
  exact FilterTree.alike_any
    (FilterTree.forall₂_alike_leaves (List.rel_append ownAlike (List.rel_flatten reachedAlike)))

end

/-- The filters of a statistic are alike when their values choose the same operators on the same
paths, one by one.  Of a repeated path the last value counts in both. -/
theorem filtersAlike_filterSpec {request : StatRequest} {filters : List StatFilter}
    (alike : List.Forall₂ (fun filter other => filter.field = other.field ∧
      ctx.ChooseAlike filter.field filter.value other.value) request.filters filters) :
    ctx.FiltersAlike request.filterSpec ({ request with filters } : StatRequest).filterSpec where
  entries_alike := by
    refine KeyMap.forall₂_ofList ?_
    rw [List.forall₂_map_left_iff, List.forall₂_map_right_iff]
    exact alike.imp fun filter other ⟨sameField, choose⟩ => ⟨sameField, .plain choose⟩
  combinator_eq := rfl
  extended_eq := rfl
  search_alike := .none

/-- Filters that differ in values and search text alone compose to alike trees. -/
theorem alike_compose {spec other : FilterSpec} {tree otherTree : FilterTree Predicate}
    (alike : ctx.FiltersAlike spec other) (composed : ctx.compose spec = .ok tree)
    (otherComposed : ctx.compose other = .ok otherTree) : tree.Alike otherTree := by
  obtain ⟨entries, compiled, rest⟩ := compose_eq_ok.1 composed
  obtain ⟨otherEntries, otherCompiled, otherRest⟩ := compose_eq_ok.1 otherComposed
  have entriesAlike : List.Forall₂ CompiledEntry.Alike entries otherEntries := by
    refine forall₂_of_mapM alike.entries_alike ?_ compiled otherCompiled
    rintro ⟨key, entry⟩ ⟨_, otherEntry⟩ result otherResult ⟨rfl, alike⟩
    exact alike_compileEntry alike
  have filters := Combinator.alike_tree spec.combinator entriesAlike
  rw [← alike.combinator_eq, ← alike.extended_eq] at otherRest
  have searches := alike.search_alike
  rcases rest with ⟨blank, rfl⟩ | ⟨text, found, isText, searched, rfl⟩
  · rcases otherRest with ⟨_, rfl⟩ | ⟨otherText, _, isOtherText, _, _⟩
    · exact filters
    · rw [blank, isOtherText] at searches
      cases searches
  · rcases otherRest with ⟨otherBlank, _⟩ | ⟨otherText, otherFound, isOtherText, otherSearched, rfl⟩
    · rw [isText, otherBlank] at searches
      cases searches
    · rw [isText, isOtherText] at searches
      cases searches with
      | some searches =>
          exact FilterTree.alike_all
            (.cons filters (.cons (alike_search searches searched otherSearched) .nil))

end Context

end Backoffice
