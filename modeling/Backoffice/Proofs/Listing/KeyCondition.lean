import Backoffice.Listing.Single
import Backoffice.Proofs.Filter.Legality
import Backoffice.Proofs.Filter.Meaning
import Backoffice.Proofs.Filter.Paths
import Backoffice.Proofs.Filter.Reach
import Backoffice.Proofs.Listing.KeyValue
import Backoffice.Proofs.Listing.Record

/-!
# Conditions on keys

The statement for a record asks that every key field equals its part of the id.  It
asks for a key (`RecordQuery.asks_iff`) when each part gives the value of its field and
no field has a point in its name, which would send the statement to another table.
-/

namespace Backoffice

open Sql (Formula Value)

/-! ## Key values -/

/-- The formula that a field equals a value, in a table.  In `postgres` an enum is compared
as a text. -/
def Field.equation (f : Field) (table : String) (d : Sql.Dialect) (value : Value) : Formula :=
  let ref : Sql.ColumnRef := ⟨table, f.column⟩
  .compare .equal (if f.type = .enum ∧ d = .postgres then .castToText ref else .column ref) value

/-- A key field of a row with its cell and its value. -/
structure KeyValue where
  field : Field
  cell : Cell
  value : Value
  /-- The value equals the cell. -/
  holds : cell.Holds field.type value

namespace KeyValue

/-- The text that stands for the value in a composite id. -/
def part (k : KeyValue) : List Char := k.cell.part

/-- That a text gives the value. -/
def Reads (k : KeyValue) (part : List Char) : Prop := k.field.Reads part k.value

/-- The formula that the field of a collection equals the value.  In `postgres` an enum
is compared as a text. -/
def equation (c : Collection) (d : Sql.Dialect) (k : KeyValue) : Formula :=
  let ref : Sql.ColumnRef := ⟨c.table, k.field.column⟩
  .compare .equal
    (if k.field.type = .enum ∧ d = .postgres then .castToText ref else .column ref) k.value

end KeyValue

/-! ## Equalities -/

/-- An equality with a text is one with the operand that the type reads from it. -/
theorem Condition.equals_eq_ok {field text : String} {type : SemanticType} {c : Condition} :
    Condition.equals field text type = .ok c ↔
      ∃ operand, Operand.ofText? type text.toList = some operand ∧
        ⟨field, text, .equals, operand⟩ = c := by
  rw [equals, assemble]
  constructor
  · intro isCondition
    split at isCondition
    next =>
      split at isCondition
      next operand read =>
        cases isCondition
        exact ⟨operand, read, rfl⟩
      next => cases isCondition
    next => cases isCondition
  · rintro ⟨operand, read, rfl⟩
    have isOperand : Grammar.operand? .equals type text.toList = some operand := read
    rw [if_pos (Operand.supports_of_ofText? read), isOperand]

/-- An equality compiles when its operand has a value, which on an enum field is declared. -/
theorem ResolvedField.compile_equals_eq_ok {g : ResolvedField} {ctx : Context} {path raw : String}
    {operand : Operand} {p : Predicate} :
    g.compile ctx ⟨path, raw, .equals, operand⟩ = .ok p ↔
      Operator.equals.supports g.type = true ∧ ∃ value, operand.value? = some value ∧
        (g.type = .enum → g.isMember operand = true) ∧
        g.predicate ⟨path, raw, .equals, operand⟩
          (.compare .equal (g.equalitySubject ctx.dialect) value) = p := by
  have isEquality : g.formula ctx ⟨path, raw, .equals, operand⟩ =
      g.equalityFormula ctx.dialect .equal ⟨path, raw, .equals, operand⟩ := rfl
  rw [compile_eq_ok, isEquality]
  constructor
  · rintro ⟨supported, formula, isFormula, rfl⟩
    obtain ⟨value, isValue, member, rfl⟩ := equalityFormula_eq_ok.1 isFormula
    exact ⟨supported, value, isValue, member, rfl⟩
  · rintro ⟨supported, value, isValue, member, rfl⟩
    exact ⟨supported, _, equalityFormula_eq_ok.2 ⟨value, isValue, member, rfl⟩, rfl⟩

/-- The condition that a key field equals a part is an equality with the value the part
gives. -/
theorem RecordQuery.keyCondition_eq_ok {ctx : Context} {f : Field} {part : String}
    {p : Predicate} (compiled : keyCondition ctx f part = .ok p) :
    ∃ g operand value, ctx.resolve f.name = .ok g ∧
      Operand.ofText? f.type part.toList = some operand ∧ operand.value? = some value ∧
      (g.type = .enum → g.isMember operand = true) ∧ p.association = g.associationName ∧
      p.formula = .compare .equal (g.equalitySubject ctx.dialect) value := by
  obtain ⟨c, isCondition, compiled⟩ := Except.bind_eq_ok.1 compiled
  obtain ⟨g, resolved, compiled⟩ := Except.bind_eq_ok.1 compiled
  obtain ⟨operand, read, rfl⟩ := Condition.equals_eq_ok.1 isCondition
  obtain ⟨_, value, isValue, member, rfl⟩ := ResolvedField.compile_equals_eq_ok.1 compiled
  exact ⟨g, operand, value, resolved, read, isValue, member, rfl, rfl⟩

/-- The formula that a field of a table equals a value. -/
theorem Field.equation_eq (ctx : Context) (f : Field) (value : Value) :
    f.equation ctx.collection.table ctx.dialect value =
      .compare .equal ((ctx.own f).equalitySubject ctx.dialect) value := by
  rw [equation, ResolvedField.equalitySubject, ResolvedField.textSubject]
  have type : (ctx.own f).type = f.type := rfl
  simp only [type]
  by_cases isEnum : f.type = .enum
  · by_cases postgres : ctx.dialect = .postgres <;> simp [isEnum, postgres] <;> rfl
  · simp [isEnum]
    rfl

/-- A field of the collection equals what a text gives, and a text that gives no value is an
error. -/
theorem Context.compile_equals_own {ctx : Context} {f : Field} {text : String} {p : Predicate} :
    (Condition.equals f.name text f.type >>= (ctx.own f).compile ctx) = .ok p ↔
      ∃ operand value, Operand.ofText? f.type text.toList = some operand ∧
        operand.value? = some value ∧
        (f.type = .enum → (f.enumValues.getD []).contains text = true) ∧
        (ctx.own f).predicate ⟨f.name, text, .equals, operand⟩
          (f.equation ctx.collection.table ctx.dialect value) = p := by
  have isMember : ∀ {operand}, Operand.ofText? f.type text.toList = some operand →
      ((f.type = .enum → (ctx.own f).isMember operand = true) ↔
        (f.type = .enum → (f.enumValues.getD []).contains text = true)) := by
    intro operand read
    refine imp_congr_right fun isEnum => ?_
    rw [ResolvedField.isMember_ofText? (f := ctx.own f) isEnum read, String.ofList_toList]
    rfl
  simp only [Except.bind_eq_ok, Condition.equals_eq_ok, Field.equation_eq]
  constructor
  · rintro ⟨c, ⟨operand, read, rfl⟩, compiled⟩
    obtain ⟨_, value, isValue, member, rfl⟩ := ResolvedField.compile_equals_eq_ok.1 compiled
    exact ⟨operand, value, read, isValue, (isMember read).1 member, rfl⟩
  · rintro ⟨operand, value, read, isValue, declared, rfl⟩
    exact ⟨_, ⟨operand, read, rfl⟩, ResolvedField.compile_equals_eq_ok.2
      ⟨Operand.supports_of_ofText? read, value, isValue, (isMember read).2 declared, rfl⟩⟩

/-- That a part of an id becomes the equation of a key value, on the table of the
collection. -/
def RecordQuery.AsksFor (ctx : Context) (k : KeyValue) (part : String) : Prop :=
  ∃ p, keyCondition ctx k.field part = .ok p ∧ p.association = none ∧
    p.formula = k.equation ctx.collection ctx.dialect

/-- A part becomes the equation of a key value exactly when it gives that value and the
name of the field has no point. -/
theorem RecordQuery.asksFor_iff_reads {ctx : Context} {k : KeyValue} {part : String}
    (found : ctx.collection.field? k.field.name = some k.field) :
    AsksFor ctx k part ↔ '.' ∉ k.field.name.toList ∧ k.Reads part.toList := by
  constructor
  · rintro ⟨p, compiled, own, isEquation⟩
    obtain ⟨g, operand, value, isField, read, isValue, member, association, formula⟩ :=
      keyCondition_eq_ok compiled
    have undotted : '.' ∉ k.field.name.toList := by
      intro dotted
      obtain ⟨name, named⟩ := Context.resolve_dotted dotted isField
      rw [own, named] at association
      cases association
    rw [Context.resolve_own found undotted] at isField
    cases isField
    have equation : k.equation ctx.collection ctx.dialect =
        .compare .equal ((ctx.own k.field).equalitySubject ctx.dialect) k.value :=
      Field.equation_eq ctx k.field k.value
    rw [formula, equation] at isEquation
    cases isEquation
    refine ⟨undotted, operand, read, isValue, fun isEnum => ?_⟩
    exact (ResolvedField.isMember_ofText? (f := ctx.own k.field) isEnum read).symm.trans
      (member isEnum)
  · rintro ⟨undotted, operand, read, isValue, declared⟩
    rw [String.ofList_toList] at declared
    obtain ⟨c, isCondition, compiled⟩ := Except.bind_eq_ok.1 <| Context.compile_equals_own.2
      ⟨operand, k.value, read, isValue, declared, rfl⟩
    exact ⟨_, Except.bind_eq_ok.2 ⟨c, isCondition, Except.bind_eq_ok.2
      ⟨_, Context.resolve_own found undotted, compiled⟩⟩, rfl, rfl⟩

/-! ## Conjunctions -/

/-- Conjunctions of as many formulas are the same only when the formulas are. -/
theorem Sql.Formula.all_injective {left right : List Formula} (lengths : left.length = right.length)
    (same : Formula.all left = Formula.all right) : left = right := by
  have chain : ∀ {others others' : List Formula} {first first' : Formula},
      others.length = others'.length → others.foldl .and first = others'.foldl .and first' →
      first = first' ∧ others = others' := by
    intro others
    induction others with
    | nil =>
        intro others' first first' lengths same
        cases others' with
        | nil => exact ⟨same, rfl⟩
        | cons => cases lengths
    | cons next rest ih =>
        intro others' first first' lengths same
        cases others' with
        | nil => cases lengths
        | cons next' rest' =>
            obtain ⟨joined, rests⟩ := ih (Nat.succ.inj lengths) same
            obtain ⟨firsts, nexts⟩ := Formula.and.inj joined
            exact ⟨firsts, by rw [nexts, rests]⟩
  cases left with
  | nil =>
      cases right with
      | nil => rfl
      | cons => cases lengths
  | cons first others =>
      cases right with
      | nil => cases lengths
      | cons first' others' =>
          obtain ⟨firsts, rests⟩ := chain (Nat.succ.inj lengths) same
          rw [firsts, rests]

/-- The condition of a conjunction of conditions is the conjunction of their formulas. -/
theorem FilterTree.condition?_leaves {leaves : List Predicate} (someLeaf : leaves ≠ []) :
    (FilterTree.all (leaves.map .leaf)).condition? = some (.all (leaves.map Predicate.formula)) := by
  have needed : ∀ leaves : List Predicate,
      FilterTree.lowerNeeded Predicate.formula (leaves.map .leaf) =
        leaves.map Predicate.formula := by
    intro leaves
    induction leaves with
    | nil => rw [List.map_nil, lowerNeeded, List.map_nil]
    | cons leaf rest ih =>
        rw [List.map_cons, lowerNeeded, ih, matchesEverything, lower, List.map_cons]
        rfl
  have notEverything : (FilterTree.all (leaves.map .leaf)).matchesEverything = false := by
    cases leaves with
    | nil => exact absurd rfl someLeaf
    | cons leaf rest =>
        rw [matchesEverything, List.map_cons, allMatchEverything, matchesEverything]
        rfl
  rw [condition?, notEverything, formula, lower, needed]
  rfl

theorem FilterTree.condition?_leaves_eq_iff {leaves : List Predicate} {formulas : List Formula}
    (lengths : leaves.length = formulas.length) (someFormula : formulas ≠ []) :
    (FilterTree.all (leaves.map .leaf)).condition? = some (.all formulas) ↔
      leaves.map Predicate.formula = formulas := by
  have someLeaf : leaves ≠ [] := by
    rintro rfl
    exact someFormula (List.length_eq_zero_iff.1 lengths.symm)
  rw [condition?_leaves someLeaf, Option.some.injEq]
  refine ⟨Formula.all_injective ?_, fun same => by rw [same]⟩
  rw [List.length_map, lengths]

/-! ## The statement of a record -/

/-- Names that occur are not lost in order. -/
theorem sortedNames_eq_nil_iff {names : List String} : sortedNames names = [] ↔ names = [] := by
  refine ⟨fun empty => ?_, fun empty => by rw [empty]; rfl⟩
  rcases List.eq_nil_or_concat names with none | ⟨others, last, rfl⟩
  · exact none
  · rw [sortedNames, KeyMap.ofList] at empty
    rw [List.concat_eq_append, List.map_append, List.foldl_append] at empty
    generalize (others.map fun name => (name, ())).foldl _ _ = m at empty
    have found := KeyMap.find?_insert_self m last ()
    have noEntries : (m.insert last ()).entries = [] := List.map_eq_nil_iff.1 empty
    rw [KeyMap.find?, noEntries] at found
    cases found

namespace RecordQuery

/-- The context of a request for a record. -/
def contextOf (q : RecordQuery) (d : Sql.Dialect) (now : Instant) : Context where
  registry := q.registry
  collection := q.collection
  dialect := d
  zone := Zone.utc
  now := now
  caseSensitive := q.settings.caseSensitive

/-- The conditions that the key fields equal the parts of the id. -/
def keyConditions (q : RecordQuery) (d : Sql.Dialect) (now : Instant) :
    Except Error (List Predicate) :=
  (q.collection.keyFields.zip (idParts q.collection.keyFields.length q.recordId)).mapM
    fun pair => keyCondition (q.contextOf d now) pair.1 pair.2

theorem keyTree_eq_ok {q : RecordQuery} {d : Sql.Dialect} {now : Instant}
    {tree : FilterTree Predicate} :
    keyTree (q.contextOf d now) q.recordId = .ok tree ↔
      (idParts q.collection.keyFields.length q.recordId).length = q.collection.keyFields.length ∧
      ∃ leaves, q.keyConditions d now = .ok leaves ∧ .all (leaves.map .leaf) = tree := by
  show (if (idParts q.collection.keyFields.length q.recordId).length =
      q.collection.keyFields.length then _ else _) = _ ↔ _
  split
  next lengths => rw [Except.map_eq_ok, and_iff_right lengths]; rfl
  next lengths => simp [lengths]

/-- A statement reads no other table when its conditions name no association. -/
theorem statement_of_own [ZoneDatabase] {q : RecordQuery} {d : Sql.Dialect} {now : Instant}
    {condition : Option Formula} :
    (∃ s, q.statement d now = .ok s ∧ s.joins = [] ∧ s.condition = condition) ↔
      (idParts q.collection.keyFields.length q.recordId).length = q.collection.keyFields.length ∧
      ∃ leaves, q.keyConditions d now = .ok leaves ∧ (∀ leaf ∈ leaves, leaf.association = none) ∧
        (FilterTree.all (leaves.map .leaf)).condition? = condition := by
  have associations : ∀ leaves : List Predicate,
      (FilterTree.all (leaves.map FilterTree.leaf)).associations = [] ↔
        ∀ leaf ∈ leaves, leaf.association = none := by
    intro leaves
    rw [FilterTree.associations, FilterTree.leaves, FilterTree.leavesOf_leaves,
      sortedNames_eq_nil_iff, List.filterMap_eq_nil_iff]
  constructor
  · rintro ⟨s, compiled, noJoins, rfl⟩
    obtain ⟨ctx, inContext, rest⟩ := Except.bind_eq_ok.1 compiled
    cases inContext
    obtain ⟨tree, isTree, rest⟩ := Except.bind_eq_ok.1 rest
    obtain ⟨base, isBase, done⟩ := Except.bind_eq_ok.1 rest
    cases done
    obtain ⟨lengths, leaves, compiledLeaves, rfl⟩ := keyTree_eq_ok.1 isTree
    obtain ⟨joins, joined, done⟩ := Except.bind_eq_ok.1 isBase
    cases done
    have none : joins = [] := noJoins
    have noNames := (mapM_eq_ok.1 joined).length_eq
    rw [none, List.append_nil, List.length_nil, List.length_eq_zero_iff,
      sortedNames_eq_nil_iff, associations] at noNames
    exact ⟨lengths, leaves, compiledLeaves, noNames, rfl⟩
  · rintro ⟨lengths, leaves, compiledLeaves, own, rfl⟩
    have isTree := keyTree_eq_ok.2 ⟨lengths, leaves, compiledLeaves, rfl⟩
    have isBase : (q.contextOf d now).baseSelect (.all (leaves.map .leaf)) [] =
        .ok { table := q.collection.table,
              condition := (FilterTree.all (leaves.map .leaf)).condition? } := by
      rw [Context.baseSelect]
      rw [(associations leaves).2 own]
      rfl
    exact ⟨_, Except.bind_eq_ok.2 ⟨q.contextOf d now, rfl, Except.bind_eq_ok.2
      ⟨_, isTree, Except.bind_eq_ok.2 ⟨_, isBase, rfl⟩⟩⟩, rfl, rfl⟩

/-- The parts of the id ask for a key when each asks for its value. -/
theorem asksFor_iff_mapM {ctx : Context} {keys : List KeyValue} {parts : List String}
    (lengths : parts.length = keys.length) :
    (∃ leaves, ((keys.map KeyValue.field).zip parts).mapM
        (fun pair => keyCondition ctx pair.1 pair.2) = .ok leaves ∧
      (∀ leaf ∈ leaves, leaf.association = none) ∧
      leaves.map Predicate.formula = keys.map fun k => k.equation ctx.collection ctx.dialect) ↔
    List.Forall₂ (AsksFor ctx) keys parts := by
  induction keys generalizing parts with
  | nil =>
      cases parts with
      | nil => exact iff_of_true ⟨[], rfl, by simp, rfl⟩ .nil
      | cons => cases lengths
  | cons k rest ih =>
      cases parts with
      | nil => cases lengths
      | cons part others =>
          rw [List.forall₂_cons, ← ih (Nat.succ.inj lengths)]
          simp only [List.map_cons, List.zip_cons_cons, List.mapM_cons, Except.bind_eq_ok]
          constructor
          · rintro ⟨leaves, ⟨p, compiled, ps, others, done⟩, own, formulas⟩
            cases done
            obtain ⟨first, formulas⟩ := List.cons.inj formulas
            obtain ⟨ownFirst, ownOthers⟩ := List.forall_mem_cons.1 own
            exact ⟨⟨p, compiled, ownFirst, first⟩, ps, others, ownOthers, formulas⟩
          · rintro ⟨⟨p, compiled, ownFirst, first⟩, ps, others, ownOthers, formulas⟩
            exact ⟨p :: ps, ⟨p, compiled, ps, others, rfl⟩,
              List.forall_mem_cons.2 ⟨ownFirst, ownOthers⟩,
              by rw [List.map_cons, first, formulas]⟩

/-- The parts of the id ask for a key exactly when no name has a point and the pieces of
the id give the values. -/
theorem asksFor_pieces {ctx : Context} {keys : List KeyValue} {pieces : List (List Char)}
    (found : ∀ k ∈ keys, ctx.collection.field? k.field.name = some k.field) :
    List.Forall₂ (AsksFor ctx) keys (pieces.map String.ofList) ↔
      (∀ k ∈ keys, '.' ∉ k.field.name.toList) ∧ List.Forall₂ KeyValue.Reads keys pieces := by
  rw [List.forall₂_map_right_iff, ← List.forall₂_and_left, List.forall₂_iff_zip,
    List.forall₂_iff_zip]
  refine and_congr_right fun _ => forall_congr' fun k => forall_congr' fun piece =>
    imp_congr_right fun member => ?_
  have here : AsksFor ctx k (String.ofList piece) ↔ _ :=
    asksFor_iff_reads (found k (List.of_mem_zip member).1)
  rwa [String.toList_ofList] at here

section
variable {q : RecordQuery} {d : Sql.Dialect} {now : Instant} {keys : List KeyValue}

theorem keyConditions_length {leaves : List Predicate}
    (compiled : q.keyConditions d now = .ok leaves)
    (lengths : (idParts q.collection.keyFields.length q.recordId).length =
      q.collection.keyFields.length) : leaves.length = q.collection.keyFields.length := by
  have each := (mapM_eq_ok.1 compiled).length_eq
  rw [List.length_zip, lengths, Nat.min_self] at each
  exact each.symm

/-- A statement that reads one table asks for a key when the parts of the id do. -/
theorem asks_iff_asksFor [ZoneDatabase] (isKey : q.collection.keyFields = keys.map KeyValue.field)
    (someKey : keys ≠ []) :
    (∃ s, q.statement d now = .ok s ∧ s.joins = [] ∧
        s.condition = some (.all (keys.map fun k => k.equation q.collection d))) ↔
      List.Forall₂ (AsksFor (q.contextOf d now)) keys
        (idParts q.collection.keyFields.length q.recordId) := by
  have keyCount : q.collection.keyFields.length = keys.length := by rw [isKey, List.length_map]
  rw [statement_of_own]
  constructor
  · rintro ⟨lengths, leaves, compiled, own, isCondition⟩
    have leafCount : leaves.length = (keys.map fun k => k.equation q.collection d).length := by
      rw [keyConditions_length compiled lengths, keyCount, List.length_map]
    have formulas := (FilterTree.condition?_leaves_eq_iff leafCount (by simpa using someKey)).1
      isCondition
    rw [keyConditions, isKey] at compiled
    rw [isKey, List.length_map] at lengths ⊢
    exact (asksFor_iff_mapM lengths).1 ⟨leaves, by simpa using compiled, own, formulas⟩
  · intro each
    have lengths : (idParts q.collection.keyFields.length q.recordId).length = keys.length :=
      each.length_eq.symm
    obtain ⟨leaves, compiled, own, formulas⟩ := (asksFor_iff_mapM lengths).2 each
    have isConditions : q.keyConditions d now = .ok leaves := by
      rw [keyConditions, isKey]
      rw [isKey] at compiled
      exact compiled
    have leafCount : leaves.length = (keys.map fun k => k.equation q.collection d).length := by
      simpa using congrArg List.length formulas
    exact ⟨lengths.trans keyCount.symm, leaves, isConditions, own,
      (FilterTree.condition?_leaves_eq_iff leafCount (by simpa using someKey)).2 formulas⟩

end

/-- A statement that reads one table asks for a key exactly when no name has a point and
the pieces of the id give the values. -/
theorem asks_iff [ZoneDatabase] {q : RecordQuery} {d : Sql.Dialect} {now : Instant}
    {keys : List KeyValue} (isKey : q.collection.keyFields = keys.map KeyValue.field)
    (found : ∀ k ∈ keys, q.collection.field? k.field.name = some k.field)
    (someKey : keys ≠ []) :
    (∃ s, q.statement d now = .ok s ∧ s.joins = [] ∧
        s.condition = some (.all (keys.map fun k => k.equation q.collection d))) ↔
      (∀ k ∈ keys, '.' ∉ k.field.name.toList) ∧
      List.Forall₂ KeyValue.Reads keys
        (Text.piecesAtMost compositeIdSeparator keys.length q.recordId.toList) := by
  have parts : idParts q.collection.keyFields.length q.recordId =
      (Text.piecesAtMost compositeIdSeparator keys.length q.recordId.toList).map
        String.ofList := by
    have positive : 1 ≤ keys.length := List.length_pos_iff.2 someKey
    rw [isKey, List.length_map, idParts, Nat.max_eq_left positive]
  rw [asks_iff_asksFor isKey someKey, parts]
  exact asksFor_pieces found

end RecordQuery

end Backoffice
