import Backoffice.Proofs.Filter.Boundaries
import Backoffice.Proofs.Filter.Leaves
import Backoffice.Proofs.Filter.Search

/-!
# What compiled conditions reach

Every condition of a filter is about one field that a path means
(`Context.IsCompiled`): its formula reads the column of that field and no other, under the
name that the association on the path has, and the association is the one that the
condition has joined.  This holds of filter values, of searches and of equalities that are
not read by the grammar, and so of every condition of a composed tree.
-/

namespace Backoffice

open Sql (Formula)

/-- A condition is about a field: it reads no column but that of the field. -/
structure Predicate.IsAbout (p : Predicate) (g : ResolvedField) : Prop where
  association_eq : p.association = g.associationName
  /-- Only the column of the field is read. -/
  columns : ∀ ref ∈ p.formula.columns, ref = g.ref

/-- A condition is about a field that a path means. -/
def Context.IsCompiled (ctx : Context) (p : Predicate) : Prop :=
  ∃ path g, ctx.Means path g ∧ p.IsAbout g

/-! ## Formulas -/

namespace ResolvedField

variable {f : ResolvedField} {d : Sql.Dialect} {c : Condition} {ctx : Context} {formula : Formula}
variable {comparison : Sql.Comparison}

@[simp] theorem ref_textSubject : (f.textSubject d).ref = f.ref := by
  rw [textSubject]
  split
  · rfl
  · rfl

@[simp] theorem columns_finds {caseSensitive : Bool} {placement : Sql.Placement} {text : String} :
    (f.finds d caseSensitive placement text).columns = [f.ref] := by
  rw [finds, Formula.columns, ref_textSubject]

@[simp] theorem columns_compares {value : Sql.Value} :
    (f.compares comparison value).columns = [f.ref] := rfl

theorem columns_equalityFormula (isFormula : f.equalityFormula d comparison c = .ok formula) :
    formula.columns = [f.ref] := by
  rw [equalityFormula] at isFormula
  split at isFormula
  next => cases isFormula
  next value isValue =>
    split at isFormula
    next =>
      split at isFormula
      next =>
        cases isFormula
        rw [Formula.columns, ref_textSubject]
      next => cases isFormula
    next =>
      cases isFormula
      exact columns_compares

theorem columns_orderFormula (isFormula : f.orderFormula comparison c = .ok formula) :
    formula.columns = [f.ref] := by
  rw [orderFormula] at isFormula
  split at isFormula
  next => cases isFormula
  next =>
    cases isFormula
    exact columns_compares

theorem columns_textFormula (isFormula : f.textFormula ctx c = .ok formula) :
    formula.columns = [f.ref] := by
  rw [textFormula] at isFormula
  split at isFormula
  next =>
    cases isFormula
    exact columns_finds
  next => cases isFormula

theorem columns_hoursFormula (isFormula : f.hoursFormula ctx comparison c = .ok formula) :
    formula.columns = [f.ref] := by
  obtain ⟨_, _, _, _, _, _, rfl⟩ := hoursFormula_eq_ok.1 isFormula
  exact columns_compares

/-- Whatever the operator is, the formula of a condition reads the column of its field. -/
theorem columns_formula (isFormula : f.formula ctx c = .ok formula) :
    ∀ ref ∈ formula.columns, ref = f.ref := by
  have ofSingle : formula.columns = [f.ref] → ∀ ref ∈ formula.columns, ref = f.ref := by
    intro single ref member
    rw [single] at member
    exact List.mem_singleton.1 member
  rw [ResolvedField.formula] at isFormula
  cases operator : c.operator with
  | equals | notEquals =>
      rw [operator] at isFormula
      exact ofSingle (columns_equalityFormula isFormula)
  | greaterThan | lessThan =>
      rw [operator] at isFormula
      exact ofSingle (columns_orderFormula isFormula)
  | contains | startsWith | endsWith =>
      rw [operator] at isFormula
      exact ofSingle (columns_textFormula isFormula)
  | notContains =>
      rw [operator] at isFormula
      obtain ⟨found, isFound, rfl⟩ := Except.map_eq_ok.1 isFormula
      simp [Formula.columns, columns_textFormula isFound]
  | isNull | isNotNull | isTrue | isFalse | isNotTrue | isNotFalse =>
      rw [operator] at isFormula
      cases isFormula
      exact ofSingle rfl
  | isPresent | isBlank =>
      rw [operator] at isFormula
      cases isFormula
      simp [Formula.columns]
  | hoursBefore | hoursAfter =>
      rw [operator] at isFormula
      exact ofSingle (columns_hoursFormula isFormula)

/-- A condition compiles when the type supports its operator and it has a formula. -/
theorem compile_eq_ok {p : Predicate} :
    f.compile ctx c = .ok p ↔ c.operator.supports f.type = true ∧
      ∃ formula, f.formula ctx c = .ok formula ∧ f.predicate c formula = p := by
  rw [compile]
  split
  next supported =>
    cases f.formula ctx c with
    | error e => simp
    | ok formula => simp [supported]
  next unsupported => simp [unsupported]

theorem isAbout_compile {p : Predicate} (compiled : f.compile ctx c = .ok p) : p.IsAbout f := by
  obtain ⟨_, formula, isFormula, rfl⟩ := compile_eq_ok.1 compiled
  exact ⟨rfl, columns_formula isFormula⟩

theorem columns_searchFormula {operand : Operand} :
    ∀ ref ∈ (f.searchFormula d operand).columns, ref = f.ref := by
  cases operand with
  | none | hours => simp [searchFormula, Operand.value?, Formula.columns]
  | _ => simp [searchFormula, Operand.value?]

/-- What a search asks of a field is about the field. -/
theorem isAbout_searchLeaf? {text : String} {p : Predicate}
    (takesPart : f.searchLeaf? d text = some p) : p.IsAbout f := by
  obtain ⟨⟨operator, operand⟩, _, rfl⟩ := Option.map_eq_some_iff.1 takesPart
  exact ⟨rfl, columns_searchFormula⟩

end ResolvedField

/-! ## Conditions -/

namespace Context

variable {ctx : Context} {path raw : String} {p : Predicate}

theorem isCompiled_of_resolve {g : ResolvedField} {c : Condition}
    (resolved : ctx.resolve path = .ok g) (compiled : g.compile ctx c = .ok p) :
    ctx.IsCompiled p :=
  ⟨path, g, resolve_eq_ok.1 resolved, ResolvedField.isAbout_compile compiled⟩

theorem isCompiled_compile {c : Condition} (compiled : ctx.compile path c = .ok p) :
    ctx.IsCompiled p := by
  obtain ⟨g, resolved, compiled⟩ := Except.bind_eq_ok.1 compiled
  exact isCompiled_of_resolve resolved compiled

theorem isCompiled_compileRaw (compiled : ctx.compileRaw path raw = .ok p) : ctx.IsCompiled p := by
  obtain ⟨g, resolved, rest⟩ := Except.bind_eq_ok.1 compiled
  obtain ⟨c, _, compiled⟩ := Except.bind_eq_ok.1 rest
  exact isCompiled_of_resolve resolved compiled

theorem isCompiled_compileEquals (compiled : ctx.compileEquals path raw = .ok p) :
    ctx.IsCompiled p := by
  obtain ⟨g, resolved, rest⟩ := Except.bind_eq_ok.1 compiled
  obtain ⟨c, _, compiled⟩ := Except.bind_eq_ok.1 rest
  exact isCompiled_of_resolve resolved compiled

/-! ## Searches -/

variable {text : String} {extended : Bool}

theorem isCompiled_searchLeaves {paths : List String} {leaves : List Predicate}
    (searched : ctx.searchLeaves text paths = .ok leaves) : ∀ p ∈ leaves, ctx.IsCompiled p := by
  obtain ⟨fields, resolved, rfl⟩ := searchLeaves_eq_ok.1 searched
  intro p member
  obtain ⟨g, isField, takesPart⟩ := List.mem_filterMap.1 member
  obtain ⟨path, _, isResolved⟩ := exists_item_of_mem resolved isField
  exact ⟨path, g, resolve_eq_ok.1 isResolved, ResolvedField.isAbout_searchLeaf? takesPart⟩

theorem isCompiled_search {tree : FilterTree Predicate}
    (searched : ctx.search text extended = .ok tree) : ∀ p ∈ tree.leaves, ctx.IsCompiled p := by
  obtain ⟨_, own, reached, isOwn, isReached, rfl⟩ := search_eq_ok.1 searched
  intro p member
  have isLeaf := FilterTree.exists_mem_leaves_map.1 (FilterTree.mem_leaves_any.1 member)
  rcases List.mem_append.1 isLeaf with here | there
  · exact isCompiled_searchLeaves isOwn p here
  · obtain ⟨leaves, isLeaves, isLeaf⟩ := List.mem_flatten.1 there
    obtain ⟨a, _, through⟩ := exists_item_of_mem isReached isLeaves
    obtain ⟨_, _, searched⟩ := searchLeavesThrough_eq_ok.1 through
    exact isCompiled_searchLeaves searched p isLeaf

/-! ## Composed trees -/

theorem isCompiled_compileEntry {entry : String × FilterEntry} {compiled : CompiledEntry}
    (isCompiled : ctx.compileEntry entry = .ok compiled) :
    ∀ p ∈ compiled.predicates, ctx.IsCompiled p := by
  obtain ⟨path, entry⟩ := entry
  intro p member
  cases entry with
  | plain raw =>
      obtain ⟨q, isQ, rfl⟩ := Except.map_eq_ok.1 isCompiled
      rw [List.mem_singleton.1 member]
      exact isCompiled_compileRaw isQ
  | group members =>
      obtain ⟨ps, arePs, rfl⟩ := Except.map_eq_ok.1 isCompiled
      obtain ⟨⟨path, raw⟩, _, isP⟩ := exists_item_of_mem arePs member
      exact isCompiled_compileRaw isP

/-- Every condition of a composed tree is about a field that a path means. -/
theorem isCompiled_compose {spec : FilterSpec} {tree : FilterTree Predicate}
    (composed : ctx.compose spec = .ok tree) : ∀ p ∈ tree.leaves, ctx.IsCompiled p := by
  obtain ⟨entries, areEntries, rest⟩ := compose_eq_ok.1 composed
  have ofEntries : ∀ p ∈ (spec.combinator.tree entries).leaves, ctx.IsCompiled p := by
    intro p member
    obtain ⟨entry, isEntry, isPredicate⟩ := Combinator.mem_leaves_tree.1 member
    obtain ⟨source, _, compiled⟩ := exists_item_of_mem areEntries isEntry
    exact isCompiled_compileEntry compiled p isPredicate
  rcases rest with ⟨_, rfl⟩ | ⟨text, found, _, searched, rfl⟩
  · exact ofEntries
  · intro p member
    obtain ⟨part, isPart, isLeaf⟩ := FilterTree.mem_leaves_all.1 member
    rcases List.mem_pair.1 isPart with rfl | rfl
    · exact ofEntries p isLeaf
    · exact isCompiled_search searched p isLeaf

end Context

end Backoffice
