import Mathlib.Data.List.ReduceOption
import Backoffice.Proofs.Filter.Addressing
import Backoffice.Proofs.Filter.Wildcards
import Backoffice.Proofs.Listing.KeyCondition

/-!
# What a search asks

A search reads its text and builds its formulas by rules of its own.  `Context.Asks` says
what it may ask of a field in terms of the filters there: of a text field what a filter
without case asks, of a number or UUID field what equality with the whole text asks, and
nothing where that is a fault.  An enum field has no such filter, so its formula is given.

The fields asked are the candidates (`Context.candidates`), in this order: those of the
collection, and in an extended search those of each to-one association.  One lemma for each
kind of field shows what is asked of it, and where every candidate is found under its path
the search is put together from them (`Context.search_of_findsCandidates`).
-/

namespace Backoffice

open Sql (Folding Formula Reading)

/-! ## Candidates -/

/-- A function that is defined on every item gives the items one result each. -/
theorem forall₂_filterMap {α β : Type} {f : α → Option β} {items : List α}
    (each : ∀ item ∈ items, ∃ result, f item = some result) :
    List.Forall₂ (fun item result => f item = some result) items (items.filterMap f) := by
  induction items with
  | nil => exact .nil
  | cons item rest ih =>
      obtain ⟨result, isResult⟩ := each item List.mem_cons_self
      rw [List.filterMap_cons_some isResult]
      exact .cons isResult (ih fun later member => each later (.tail item member))

namespace Collection

/-- The fields a search looks at are the chosen ones, in the order of the choice, or without a
choice all searchable ones in the order of their columns. -/
structure HasCandidates (c : Collection) : Prop where
  chosen : ∀ names, c.searchFields = some names →
    List.Forall₂ (fun name f => c.field? name = some f) names c.searchCandidates
  unchosen : c.searchFields = none → c.searchCandidates = c.fields.filter (·.type.isSearchable)
  searchable : ∀ f ∈ c.searchCandidates, f.type.isSearchable = true

/-- A collection whose chosen fields are searchable fields searches in them. -/
theorem hasCandidates {c : Collection}
    (fields : ∀ names, c.searchFields = some names → ∀ name ∈ names,
      ∃ f, c.field? name = some f ∧ f.type.isSearchable = true) : c.HasCandidates where
  chosen names isChosen := by
    rw [searchCandidates, isChosen]
    exact forall₂_filterMap fun name member =>
      (fields names isChosen name member).imp fun _ => And.left
  unchosen isChosen := by rw [searchCandidates, isChosen]
  searchable f candidate := by
    rw [searchCandidates] at candidate
    split at candidate
    next names isChosen =>
      obtain ⟨name, member, isField⟩ := List.mem_filterMap.1 candidate
      obtain ⟨f', isField', searchable⟩ := fields names isChosen name member
      cases isField.symm.trans isField'
      exact searchable
    next => exact (List.mem_filter.1 candidate).2

end Collection

namespace Registry

/-- The collections of an accepted registry search in the fields that were chosen. -/
theorem hasCandidates {ds : List Declaration} {r : Registry} (built : build ds = .ok r)
    {c : Collection} (held : c ∈ r.toList) : c.HasCandidates := by
  obtain ⟨_, found⟩ := mem_toList.1 held
  obtain ⟨d, _, _, rfl, faultless⟩ := exists_declaration built found
  exact Collection.hasCandidates (declarationFault_eq_none_iff.1 faultless).searchable

end Registry

namespace Context

/-- Every field that a search looks at is found under its path. -/
def FindsCandidates (ctx : Context) (extended : Bool) : Prop :=
  ∀ g ∈ ctx.candidates extended, ctx.resolve g.path = .ok g

variable {ctx : Context} {text : String} {extended : Bool} {g : ResolvedField} {p : Predicate}

end Context

/-! ## Leaves -/

/-- That the field contains a text. -/
def ResolvedField.containing (g : ResolvedField) (text : String) : Condition :=
  ⟨g.path, text, .contains, .text text⟩

namespace Context

/-- What a search for a text asks of a field, if anything, in terms of the filters on it. -/
def Asks (ctx : Context) (text : String) (g : ResolvedField) (leaf : Option Predicate) : Prop :=
  match g.type with
  | .string =>
      ∃ p, leaf = some p ∧
        { ctx with caseSensitive := false }.compile g.path (g.containing text) = .ok p
  | .number | .uuid =>
      (∀ p, leaf = some p ↔ ctx.compileEquals g.path text = .ok p) ∧
        (leaf = none ↔ ∃ e, Condition.equals g.path text g.type = .error e)
  | .enum => leaf = some
      (g.predicate (g.containing text) (g.finds ctx.dialect false .anywhere text))
  | .boolean | .date | .dateonly | .json | .unsupported => leaf = none

end Context

/-- Equality with a text is a fault where the type reads no operand from it. -/
theorem Condition.equals_eq_error {field text : String} {type : SemanticType} :
    (∃ e, Condition.equals field text type = .error e) ↔
      Operand.ofText? type text.toList = none := by
  cases isCondition : Condition.equals field text type with
  | ok c =>
      obtain ⟨operand, read, _⟩ := Condition.equals_eq_ok.1 isCondition
      simp [read]
  | error e =>
      simp only [Except.error.injEq, exists_eq', true_iff]
      cases read : Operand.ofText? type text.toList with
      | none => rfl
      | some operand =>
          rw [Condition.equals_eq_ok.2 ⟨operand, read, rfl⟩] at isCondition
          cases isCondition

namespace ResolvedField

variable {ctx : Context} {g : ResolvedField} {d : Sql.Dialect} {text : String} {p : Predicate}

/-- A text is searched for in text and enum fields, whatever the case. -/
theorem searchLeaf?_of_isText (isText : g.type = .string ∨ g.type = .enum) :
    g.searchLeaf? d text =
      some (g.predicate (g.containing text) (g.finds d false .anywhere text)) := by
  rw [searchLeaf?, searchOperand?]
  rcases isText with type | type
  · rw [type]
    rfl
  · rw [type]
    rfl

/-- A number or UUID field takes part when its type reads an operand from the text. -/
theorem searchOperand?_of_isExact (isExact : g.type = .number ∨ g.type = .uuid) :
    g.searchOperand? text = (Operand.ofText? g.type text.toList).map fun v => (.equals, v) := by
  rw [searchOperand?]
  rcases isExact with type | type
  · rw [type]
    rfl
  · rw [type, Operand.ofText?, Option.map_map]
    rfl

/-- A number or UUID type reads no text. -/
theorem ne_text_of_isExact (isExact : g.type = .number ∨ g.type = .uuid) {cs : List Char}
    {operand : Operand} (read : Operand.ofText? g.type cs = some operand) (other : String) :
    operand ≠ .text other := by
  rintro rfl
  rcases isExact with type | type
  · rw [type, Operand.ofText?, Operand.number?] at read
    split at read
    next => cases read
    next =>
      obtain ⟨_, _, different⟩ := Option.map_eq_some_iff.1 read
      cases different
  · rw [type] at read
    obtain ⟨_, _, different⟩ := Option.map_eq_some_iff.1 read
    cases different

/-- An operand that is no text is compared with. -/
theorem searchFormula_of_ne_text {operand : Operand} {value : Sql.Value}
    (isValue : operand.value? = some value) (notText : ∀ other, operand ≠ .text other) :
    g.searchFormula d operand = g.compares .equal value := by
  cases operand with
  | text other => exact absurd rfl (notText other)
  | none | hours => cases isValue
  | integer | double | instant | day | uuid =>
      cases isValue
      rfl

/-- A number or UUID field is asked what equality with the text asks. -/
theorem searchLeaf?_eq_some_of_isExact (isExact : g.type = .number ∨ g.type = .uuid) :
    g.searchLeaf? ctx.dialect text = some p ↔
      ∃ operand, Operand.ofText? g.type text.toList = some operand ∧
        g.compile ctx ⟨g.path, text, .equals, operand⟩ = .ok p := by
  have notEnum : g.type ≠ .enum := by
    rcases isExact with type | type
    · simp [type]
    · simp [type]
  rw [searchLeaf?, searchOperand?_of_isExact isExact, Option.map_map, Option.map_eq_some_iff]
  refine exists_congr fun operand => and_congr_right fun read => ?_
  obtain ⟨value, isValue⟩ := Operand.value?_of_ofText? read
  have asked : g.searchFormula ctx.dialect operand =
      .compare .equal (g.equalitySubject ctx.dialect) value := by
    rw [searchFormula_of_ne_text isValue (ne_text_of_isExact isExact read), equalitySubject,
      if_neg notEnum]
    rfl
  show g.predicate ⟨g.path, text, .equals, operand⟩ (g.searchFormula ctx.dialect operand) = p ↔ _
  rw [asked, compile_equals_eq_ok]
  simp [isValue, notEnum, Operand.supports_of_ofText? read]

theorem searchLeaf?_eq_none_of_isExact (isExact : g.type = .number ∨ g.type = .uuid) :
    g.searchLeaf? d text = none ↔ Operand.ofText? g.type text.toList = none := by
  rw [searchLeaf?, searchOperand?_of_isExact isExact]
  simp

end ResolvedField

namespace Context

variable {ctx : Context} {text : String} {extended : Bool} {g : ResolvedField} {p : Predicate}

/-- An equality on a field that is found reads its operand and compiles. -/
theorem compileEquals_of_resolve (resolved : ctx.resolve g.path = .ok g) :
    ctx.compileEquals g.path text = .ok p ↔
      ∃ operand, Operand.ofText? g.type text.toList = some operand ∧
        g.compile ctx ⟨g.path, text, .equals, operand⟩ = .ok p := by
  have onField : ctx.compileEquals g.path text =
      Condition.equals g.path text g.type >>= g.compile ctx := by
    rw [compileEquals, resolved]
    rfl
  rw [onField]
  constructor
  · intro compiled
    obtain ⟨c, isCondition, compiled⟩ := Except.bind_eq_ok.1 compiled
    obtain ⟨operand, read, rfl⟩ := Condition.equals_eq_ok.1 isCondition
    exact ⟨operand, read, compiled⟩
  · rintro ⟨operand, read, compiled⟩
    exact Except.bind_eq_ok.2 ⟨_, Condition.equals_eq_ok.2 ⟨operand, read, rfl⟩, compiled⟩

/-- A search asks of a field that is found what filters ask. -/
theorem asks_searchLeaf? (resolved : ctx.resolve g.path = .ok g) (text : String) :
    ctx.Asks text g (g.searchLeaf? ctx.dialect text) := by
  rw [Asks]
  have equality : ∀ isExact : g.type = .number ∨ g.type = .uuid,
      (∀ p, g.searchLeaf? ctx.dialect text = some p ↔ ctx.compileEquals g.path text = .ok p) ∧
        (g.searchLeaf? ctx.dialect text = none ↔
          ∃ e, Condition.equals g.path text g.type = .error e) := fun isExact => by
    constructor
    · intro p
      rw [ResolvedField.searchLeaf?_eq_some_of_isExact isExact, compileEquals_of_resolve resolved]
    · rw [ResolvedField.searchLeaf?_eq_none_of_isExact isExact, Condition.equals_eq_error]
  split
  next type =>
    refine ⟨_, ResolvedField.searchLeaf?_of_isText (.inl type), ?_⟩
    have found : { ctx with caseSensitive := false }.resolve g.path = .ok g := resolved
    rw [compile, found]
    exact ResolvedField.compile_wildcard _ type rfl rfl
  next type => exact equality (.inl type)
  next type => exact equality (.inr type)
  next type => exact ResolvedField.searchLeaf?_of_isText (.inr type)
  all_goals
    next type =>
      rw [ResolvedField.searchLeaf?, ResolvedField.searchOperand?, type]
      rfl

/-! ## Searches -/

/-- A search looks up the fields of some paths and asks each of them. -/
theorem searchLeaves_of_found {fields : List ResolvedField}
    (found : ∀ g ∈ fields, ctx.resolve g.path = .ok g) :
    ctx.searchLeaves text (fields.map (·.path)) =
      .ok (fields.filterMap (·.searchLeaf? ctx.dialect text)) := by
  refine searchLeaves_eq_ok.2 ⟨fields, mapM_eq_ok.2 ?_, rfl⟩
  rw [List.forall₂_map_left_iff, List.forall₂_same]
  exact found

/-- Where every candidate is found, a search asks them one after the other. -/
theorem search_of_findsCandidates
    (reach : ∀ a ∈ ctx.collection.toOneAssociations,
      ∃ target, ctx.registry.collection a.target = .ok target)
    (found : ctx.FindsCandidates extended) (short : text.utf8ByteSize ≤ searchTextLimit) :
    ctx.search text extended = .ok (.any
      (((ctx.candidates extended).filterMap (·.searchLeaf? ctx.dialect text)).map .leaf)) := by
  have own : ctx.searchLeaves text ctx.ownSearchPaths = .ok
      ((ctx.collection.searchCandidates.map ctx.own).filterMap
        (·.searchLeaf? ctx.dialect text)) := by
    have paths : ctx.ownSearchPaths =
        (ctx.collection.searchCandidates.map ctx.own).map (·.path) := by
      rw [ownSearchPaths, List.map_map]
      rfl
    rw [paths]
    exact searchLeaves_of_found fun g member => found g (List.mem_append_left _ member)
  have reached : (ctx.searchedAssociations extended).mapM (ctx.searchLeavesThrough text) =
      .ok ((ctx.searchedAssociations extended).map fun a =>
        (ctx.candidatesThrough a).filterMap (·.searchLeaf? ctx.dialect text)) := by
    rw [mapM_eq_ok, List.forall₂_map_right_iff, List.forall₂_same]
    intro a searched
    obtain ⟨target, reaches⟩ := reach a (mem_searchedAssociations.1 searched).2
    have paths : (target.searchCandidates.map fun f => FieldPath.through a.name f.name) =
        (ctx.candidatesThrough a).map (·.path) := by
      rw [candidatesThrough_eq reaches, List.map_map]
      rfl
    rw [searchLeavesThrough_eq reaches, paths]
    refine searchLeaves_of_found fun g member => found g (List.mem_append_right _ ?_)
    exact List.mem_flatMap.2 ⟨a, searched, member⟩
  refine search_eq_ok.2 ⟨short, _, _, own, reached, ?_⟩
  rw [candidates, List.filterMap_append, List.filterMap_flatMap, List.flatMap_def]

end Context

/-- Searches ask what filters ask.  In an accepted registry a search whose candidates are found
under their names has, in the order of the candidates, a leaf for each that is asked something:
what `Context.Asks` says.  The candidates are the chosen or the searchable fields of the
collection, and in an extended search then those of every association that reaches at most one
record.

Of an enum field it is asked that the text stands in its value as a text, once both are in upper
case.  The time zone, the present instant and the treatment of case do not change a search. -/
theorem searches_ask_what_filters_ask {ds : List Declaration} {r : Registry}
    (built : Registry.build ds = .ok r) {ctx : Context} (inRegistry : ctx.registry = r)
    (held : ctx.collection ∈ r.toList) :
    (∀ c ∈ r.toList, c.HasCandidates) ∧
    (∀ a ∈ ctx.collection.toOneAssociations, ∃ target ∈ r.toList,
      r.collection a.target = .ok target ∧
        ctx.candidatesThrough a = target.searchCandidates.map a.reached) ∧
    (∀ extended text, ctx.FindsCandidates extended → text.utf8ByteSize ≤ searchTextLimit →
      ∃ leaves, List.Forall₂ (ctx.Asks text) (ctx.candidates extended) leaves ∧
        ctx.search text extended = .ok (.any (leaves.reduceOption.map .leaf))) ∧
    (∀ (g : ResolvedField) (p : Predicate) (text value : String) (fold : Folding) (row : Reading),
      g.type = .enum → ctx.Asks text g (some p) →
      row.MatchesText fold (g.textSubject ctx.dialect) value →
      p.formula.truth row ≠ .unknown ∧
        (p.formula.truth row = .yes ↔ fold.view text.toList <:+: fold.view value.toList)) ∧
    ∀ text extended zone now caseSensitive,
      { ctx with zone, now, caseSensitive }.search text extended = ctx.search text extended := by
  subst inRegistry
  have reach := Registry.exists_target built held
  refine ⟨fun c => Registry.hasCandidates built, ?_, ?_, ?_, fun _ _ _ _ _ => rfl⟩
  · intro a member
    obtain ⟨target, reaches⟩ := reach a member
    exact ⟨target, Registry.mem_toList.2 ⟨_, reaches⟩, reaches,
      Context.candidatesThrough_eq reaches⟩
  · intro extended text found short
    refine ⟨(ctx.candidates extended).map (·.searchLeaf? ctx.dialect text), ?_, ?_⟩
    · rw [List.forall₂_map_right_iff, List.forall₂_same]
      exact fun g member => Context.asks_searchLeaf? (found g member) text
    · rw [Context.search_of_findsCandidates reach found short, List.reduceOption,
        List.filterMap_map]
      rfl
  · intro g p text value fold row isEnum asks shown
    rw [Context.Asks, isEnum] at asks
    cases asks
    rw [ResolvedField.predicate, ResolvedField.truth_finds shown]
    refine ⟨Sql.Truth.ofBool_ne_unknown _, ?_⟩
    rw [Sql.Truth.ofBool_eq_yes, Sql.MatchStyle.accepts_pattern, Sql.Dialect.view_matchStyle,
      Sql.Dialect.view_matchStyle]
    rfl

namespace Sample

/-- Tickets of an author, which are searched in by their state and their code. -/
def ticket : Declaration where
  name := "ticket"
  table := "tickets"
  columns :=
    [(Column.named "id" .integer).asPrimaryKey, Column.named "code" .uuid,
     Column.named "state" (.enum ["open", "shut"]), Column.named "author_id" .integer]
  searchFields := some ["state", "code"]
  associations := [⟨"author", "author", .belongsTo, "author_id"⟩]

/-- A request about tickets. -/
def tickets : Context :=
  { articles with
    registry := (Registry.build [ticket, article, author]).toOption.getD ⟨.empty⟩
    collection := ticket.toCollection }

/-- The state of a ticket. -/
def state : ResolvedField where
  path := "state"
  association := none
  table := "tickets"
  field :=
    { name := "state", column := "state", type := .enum, isRequired := false,
      isPrimaryKey := false, enumValues := some ["open", "shut"], default := .none, rules := [] }

/-- A search of the tickets for `OPE` looks at four fields and asks two of them.  It is asked of
the state that `OPE` stands in it, which is so of an open ticket. -/
theorem searches_ask_what_filters_ask_of_tickets :
    (tickets.candidates true).map (·.path) = ["state", "code", "author.id", "author.name"] ∧
    (∃ leaves, List.Forall₂ (tickets.Asks "OPE") (tickets.candidates true) leaves ∧
      tickets.search "OPE" true = .ok (.any (leaves.reduceOption.map .leaf))) ∧
    ∃ p, tickets.Asks "OPE" state (some p) ∧
      (p.formula.truth (.ofText .ascii "open") = .yes ↔
        Folding.ascii.view "OPE".toList <:+: Folding.ascii.view "open".toList) := by
  have built : Registry.build [ticket, article, author] = .ok tickets.registry := rfl
  have found : tickets.FindsCandidates true :=
    List.forall_mem_cons.2 ⟨rfl, List.forall_mem_cons.2 ⟨rfl, List.forall_mem_cons.2
      ⟨rfl, List.forall_mem_singleton.2 rfl⟩⟩⟩
  obtain ⟨_, _, searches, enums, _⟩ := searches_ask_what_filters_ask built
    (show tickets.registry = _ from rfl)
    (show tickets.collection ∈ _ from Registry.mem_toList.2 ⟨"ticket", rfl⟩)
  refine ⟨rfl, searches true "OPE" found (by decide), _, rfl, ?_⟩
  exact (enums state _ "OPE" "open" .ascii (.ofText .ascii "open") rfl rfl fun _ _ => rfl).2

end Sample

end Backoffice
