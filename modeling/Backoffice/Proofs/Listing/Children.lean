import Backoffice.Proofs.Listing.KeyCondition
import Backoffice.Proofs.Listing.Statements
import Backoffice.Proofs.Schema.Names
import Backoffice.Proofs.Sql.Database

/-!
# Records that belong to a record

The list of the records that belong to a record asks what the list of all records of the
collection asks, and beside it that the foreign key equals the id
(`ListQuery.statements_within`).  The id is never read by the grammar of filters.  It
compiles exactly when it gives a value of the type of the foreign key, and what is compared
then is this value, whatever signs stand in the id.
-/

namespace Backoffice

open Sql (Database Engine Formula JoinedRow Reading Select)

/-! ## One more condition in front -/

/-- The statement with a condition in front of its own. -/
def Sql.Select.within (s : Select) (formula : Formula) : Select :=
  { s with condition := some <| match s.condition with
      | some condition => .and formula condition
      | none => formula }

/-- A condition in front of another keeps those of its rows it is true of. -/
theorem Sql.Select.keeps_within (s : Select) (formula : Formula) (r : Reading) :
    (s.within formula).Keeps r ↔ formula.truth r = .yes ∧ s.Keeps r := by
  unfold Keeps within
  cases s.condition with
  | none => simp
  | some condition => simp [Formula.truth]

theorem Sql.Select.kept_within {V : Type} (e : Engine V) (db : Database V) (s : Select)
    (formula : Formula) :
    (s.within formula).kept e db =
      (s.kept e db).filter fun row => formula.truth (e.reading row) = .yes := by
  have sameRows : (s.within formula).joinedRows e db = s.joinedRows e db := rfl
  rw [kept, kept, sameRows, List.filter_filter]
  refine List.filter_congr fun row _ => ?_
  simp [keeps_within]

/-- A statement keeps the rows of another that a condition is true of. -/
structure Sql.Select.Narrows (s : Select) (formula : Formula) (other : Select) : Prop where
  /-- Nothing but the condition is another. -/
  eq_within : s = other.within formula
  keeps : ∀ r, s.Keeps r ↔ formula.truth r = .yes ∧ other.Keeps r
  kept : ∀ {V : Type} (e : Engine V) (db : Database V),
    s.kept e db = (other.kept e db).filter fun row => formula.truth (e.reading row) = .yes

theorem Sql.Select.narrows_within (s : Select) (formula : Formula) :
    (s.within formula).Narrows formula s where
  eq_within := rfl
  keeps := s.keeps_within formula
  kept e db := s.kept_within e db formula

namespace FilterTree

variable {tree : FilterTree Predicate} {p : Predicate}

theorem condition?_beside : (all [leaf p, tree]).condition? = some (match tree.condition? with
    | some condition => .and p.formula condition
    | none => p.formula) := by
  rw [condition?, condition?, matchesEverything, allMatchEverything, matchesEverything]
  rw [formula, lower, lowerNeeded, matchesEverything, lower, lowerNeeded, lowerNeeded]
  cases tree.matchesEverything with
  | true => rfl
  | false => rfl

theorem associations_beside (own : p.association = none) :
    (all [leaf p, tree]).associations = tree.associations := by
  have sameLeaves : (all [leaf p, tree]).leaves = p :: tree.leaves := by
    simp [leaves, leavesOf]
  rw [associations, associations, sameLeaves, List.filterMap_cons_none own]

end FilterTree

/-- A condition on the collection itself, put beside a tree, stands in front of the condition
of the statement and joins nothing. -/
theorem Context.baseSelect_beside {ctx : Context} {tree : FilterTree Predicate} {p : Predicate}
    {others : List String} (own : p.association = none) :
    ctx.baseSelect (.all [.leaf p, tree]) others =
      (ctx.baseSelect tree others).map fun s => s.within p.formula := by
  rw [baseSelect, baseSelect, FilterTree.associations_beside own, FilterTree.condition?_beside]
  cases (sortedNames (tree.associations ++ others)).mapM ctx.join with
  | error => rfl
  | ok joins => rfl

/-! ## Equality with an id -/

/-- The equality of a field of the collection with a text, which is not read by the grammar
of filters: a text that gives no value of the type of the field is an error. -/
theorem Context.compileEquals_eq_ok {ctx : Context} {f : Field} {text : String} {p : Predicate}
    (resolved : ctx.resolve f.name = .ok (ctx.own f)) :
    ctx.compileEquals f.name text = .ok p ↔
      ∃ operand value, Operand.ofText? f.type text.toList = some operand ∧
        operand.value? = some value ∧
        (f.type = .enum → (f.enumValues.getD []).contains text = true) ∧
        (ctx.own f).predicate ⟨f.name, text, .equals, operand⟩
          (f.equation ctx.collection.table ctx.dialect value) = p := by
  rw [← compile_equals_own, compileEquals, resolved]
  rfl

/-! ## Statements about children -/

/-- Both statements with a condition in front of their own. -/
def ListStatements.within (st : ListStatements) (formula : Formula) : ListStatements :=
  ⟨st.count.within formula, st.page.within formula⟩

namespace ListQuery

/-- The list of all records of the collection that is asked the same of. -/
def ofAll (q : ListQuery) : ListQuery := { q with parent := none }

variable {q : ListQuery} {d : Sql.Dialect} {now : Instant} {f : Field} {id : String}

section
variable (ofParent : q.parent = some ⟨f.name, id⟩)
variable (found : q.collection.field? f.name = some f) (undotted : '.' ∉ f.name.toList)

include ofParent found undotted

/-- The parts of a list of children are those of the list of all records, but for the
equation that stands in front. -/
theorem HasParts.of_children [ZoneDatabase] {p : ListParts} (parts : q.HasParts d now p) :
    ∃ base value, q.ofAll.HasParts d now { p with tree := p.filters, base } ∧
      f.Reads id.toList value ∧ p.base = base.within (f.equation q.collection.table d value) := by
  obtain ⟨_, about, dialect⟩ := Context.of_make parts.context_eq
  have beside := parts.tree_eq
  rw [ofParent] at beside
  obtain ⟨belongs, isEquality, isTree⟩ := Except.map_eq_ok.1 beside
  have resolved : p.context.resolve f.name = .ok (p.context.own f) :=
    Context.resolve_own (about ▸ found) undotted
  obtain ⟨operand, value, read, isValue, declared, rfl⟩ :=
    (Context.compileEquals_eq_ok resolved).1 isEquality
  -- the equation is about the collection itself, so the joins are those of the filters
  have selected := parts.base_eq
  rw [← isTree, Context.baseSelect_beside rfl] at selected
  obtain ⟨base, isBase, within⟩ := Except.map_eq_ok.1 selected
  refine ⟨base, value, ?_, ⟨operand, read, isValue, ?_⟩, ?_⟩
  · exact { parts with tree_eq := rfl, base_eq := isBase }
  · rwa [String.ofList_toList]
  · rw [← within, ← about, ← dialect]
    rfl

/-- The list of children compiles when that of all records does and the id gives a value. -/
theorem HasParts.children [ZoneDatabase] {p : ListParts} (parts : q.ofAll.HasParts d now p)
    {value : Sql.Value} (reads : f.Reads id.toList value) :
    ∃ tree, q.HasParts d now
      { p with tree, base := p.base.within (f.equation q.collection.table d value) } := by
  obtain ⟨_, about, dialect⟩ := Context.of_make parts.context_eq
  have about' : p.context.collection = q.collection := about
  have resolved : p.context.resolve f.name = .ok (p.context.own f) :=
    Context.resolve_own (about' ▸ found) undotted
  obtain ⟨belongs, isEquality, own, equation⟩ : ∃ belongs,
      p.context.compileEquals f.name id = .ok belongs ∧ belongs.association = none ∧
        belongs.formula = f.equation p.context.collection.table p.context.dialect value := by
    obtain ⟨operand, read, isValue, declared⟩ := reads
    rw [String.ofList_toList] at declared
    exact ⟨_, (Context.compileEquals_eq_ok resolved).2
      ⟨operand, value, read, isValue, declared, rfl⟩, rfl, rfl⟩
  have sameTree : p.filters = p.tree := Except.ok.inj parts.tree_eq
  refine ⟨.all [.leaf belongs, p.filters], { parts with tree_eq := ?_, base_eq := ?_ }⟩
  · rw [ofParent, withParent, isEquality]
    rfl
  · show p.context.baseSelect (.all [.leaf belongs, p.filters]) p.others = _
    rw [Context.baseSelect_beside own, sameTree, parts.base_eq, equation, about', dialect]
    rfl

/-- The statements of a list of children are those of the list of all records, with the
equation of the foreign key and the id in front. -/
theorem statements_within [ZoneDatabase] {st : ListStatements} :
    q.statements d now = .ok st ↔
      ∃ all value, q.ofAll.statements d now = .ok all ∧ f.Reads id.toList value ∧
        all.within (f.equation q.collection.table d value) = st := by
  simp only [statements_eq_ok]
  constructor
  · rintro ⟨p, parts, rfl⟩
    obtain ⟨base, value, ofAll, reads, within⟩ := parts.of_children ofParent found undotted
    have sameParts :
        p = { p with base := base.within (f.equation q.collection.table d value) } := by
      rw [← within]
    refine ⟨_, value, ⟨_, ofAll, rfl⟩, reads, ?_⟩
    rw [sameParts]
    rfl
  · rintro ⟨_, value, ⟨p, parts, rfl⟩, reads, rfl⟩
    obtain ⟨tree, isChildren⟩ := parts.children ofParent found undotted reads
    exact ⟨_, isChildren, rfl⟩

end

theorem ofParent_eq_ok {r : Registry} {name association : String} {c target : Collection}
    {a : Association} (declared : r.collection name = .ok c)
    (associated : c.association association = .ok a) (isHas : a.kind ≠ .belongsTo)
    (reaches : r.collection a.target = .ok target)
    (isKey : target.fieldByColumn? a.foreignKey = some f) (id : String) (params : ListParams)
    (settings : Settings) :
    ofParent r name id association params settings =
      .ok { registry := r, collection := target, params, settings,
            parent := some ⟨f.name, id⟩ } := by
  refine Except.bind_eq_ok.2 ⟨c, declared, Except.bind_eq_ok.2 ⟨a, associated, ?_⟩⟩
  rw [if_neg isHas]
  refine Except.bind_eq_ok.2 ⟨target, reaches, ?_⟩
  rw [isKey]
  rfl

end ListQuery

/-- A request for the records that belong to a record never leaves them.  It compiles when
the same request for all records does and the id gives a value of the type of the foreign
key, and then both statements keep, of the records that the other statements keep, those
whose foreign key equals the value. -/
theorem children_stay_with_parent [ZoneDatabase] {ds : List Declaration} {r : Registry}
    (built : Registry.build ds = .ok r) (plain : ∀ c ∈ r.toList, c.HasPlainFields)
    {name association : String} {c : Collection} {a : Association}
    (declared : r.collection name = .ok c) (associated : c.association association = .ok a)
    (isHas : a.kind ≠ .belongsTo) (id : String) (params : ListParams) (settings : Settings) :
    ∃ target f children all, r.collection a.target = .ok target ∧
      f ∈ target.fields ∧ f.column = a.foreignKey ∧
      ListQuery.ofParent r name id association params settings = .ok children ∧
      ListQuery.ofCollection r a.target params settings = .ok all ∧
      ∀ d now,
        ((∃ st, children.statements d now = .ok st) ↔
          (∃ st, all.statements d now = .ok st) ∧ ∃ value, f.Reads id.toList value) ∧
        ∀ st st', children.statements d now = .ok st → all.statements d now = .ok st' →
          ∃ value, f.Reads id.toList value ∧
            st.count.Narrows (f.equation target.table d value) st'.count ∧
            st.page.Narrows (f.equation target.table d value) st'.page := by
  have member := (Collection.of_association associated).1
  obtain ⟨target, reaches, link⟩ :=
    Registry.exists_link built (Registry.mem_toList.2 ⟨name, declared⟩) member
  obtain ⟨f, isKey⟩ := link.foreignKey
  have isTarget : a.owner c target = target := by
    rw [Association.owner]
    cases kind : a.kind with
    | belongsTo => exact absurd kind isHas
    | hasOne | hasMany => rfl
  rw [isTarget] at isKey
  obtain ⟨isField, column⟩ := Collection.column_of_fieldByColumn? isKey
  have plainTarget := plain target (Registry.mem_toList.2 ⟨a.target, reaches⟩)
  have isChildren := ListQuery.ofParent_eq_ok declared associated isHas reaches isKey
    id params settings
  refine ⟨target, f, _, _, reaches, isField, column, isChildren,
    Except.map_eq_ok.2 ⟨target, reaches, rfl⟩, fun d now => ?_⟩
  have within := @ListQuery.statements_within
    { registry := r, collection := target, params, settings, parent := some ⟨f.name, id⟩ } d now f
    id rfl (plainTarget.field? isField) (plainTarget.fieldsUndotted f isField)
  constructor
  · constructor
    · rintro ⟨st, compiles⟩
      obtain ⟨st', value, ofAll, reads, _⟩ := within.1 compiles
      exact ⟨⟨st', ofAll⟩, value, reads⟩
    · rintro ⟨⟨st', ofAll⟩, value, reads⟩
      exact ⟨_, within.2 ⟨st', value, ofAll, reads, rfl⟩⟩
  · intro st st' compiles ofAll
    obtain ⟨st'', value, ofAll', reads, rfl⟩ := within.1 compiles
    obtain rfl : st'' = st' := Except.ok.inj (ofAll'.symm.trans ofAll)
    exact ⟨value, reads, Sql.Select.narrows_within _ _, Sql.Select.narrows_within _ _⟩

namespace Sample

/-- Shelves under signs that are texts. -/
def shelf : Declaration where
  name := "shelf"
  table := "shelves"
  columns := [(Column.named "sign" .string).asPrimaryKey]
  associations := [⟨"books", "book", .hasMany, "shelf_sign"⟩]

/-- Books, each on one shelf. -/
def book : Declaration where
  name := "book"
  table := "books"
  columns :=
    [(Column.named "id" .integer).asPrimaryKey, Column.named "shelf_sign" .string,
     Column.named "title" .string]

/-- The registry of the two. -/
def library : Registry := (Registry.build [shelf, book]).toOption.getD ⟨.empty⟩

theorem build_library : Registry.build [shelf, book] = .ok library := rfl

theorem hasPlainFields_library : ∀ c ∈ library.toList, c.HasPlainFields := by
  intro c member
  rcases List.mem_pair.1 (show c ∈ [book.toCollection, shelf.toCollection] from member) with
    rfl | rfl
  · exact ⟨by decide, by decide⟩
  · exact ⟨by decide, by decide⟩

/-- One of two conditions on books. -/
def eitherBook : ListParams where
  filters := { entries := .ofList [("id", .plain "1"), ("title", .plain "A*")], combinator := .or }

/-- The sign `!null`, which filters would read as a test, is compared with the signs of
shelves, and the filters stand beside the equation. -/
theorem children_stay_with_parent_of_shelf :
    ∃ children all st st' value, ∃ f : Field,
      ListQuery.ofParent library "shelf" "!null" "books" eitherBook {} = .ok children ∧
      ListQuery.ofCollection library "book" eitherBook {} = .ok all ∧
      children.statements .mysql ⟨0, 0⟩ = .ok st ∧ all.statements .mysql ⟨0, 0⟩ = .ok st' ∧
      f.Reads "!null".toList value ∧
      st.count.Narrows (f.equation "books" .mysql value) st'.count ∧
      st.page.Narrows (f.equation "books" .mysql value) st'.page ∧
      st.page.condition = some (.and
        (.compare .equal (.column ⟨"books", "shelf_sign"⟩) (.text "!null"))
        (.or (.compare .equal (.column ⟨"books", "id"⟩) (.bigInt 1))
          (.fits .folded (.column ⟨"books", "title"⟩) "A%"))) := by
  obtain ⟨target, f, children, all, reaches, _, _, isChildren, isAll, spec⟩ :=
    children_stay_with_parent build_library hasPlainFields_library
      (show library.collection "shelf" = .ok shelf.toCollection from rfl)
      (show shelf.toCollection.association "books" = .ok _ from rfl) (by decide) "!null"
      eitherBook {}
  cases reaches
  cases isChildren
  cases isAll
  obtain ⟨value, reads, countNarrows, pageNarrows⟩ := (spec .mysql ⟨0, 0⟩).2 _ _ rfl rfl
  exact ⟨_, _, _, _, value, f, rfl, rfl, rfl, rfl, reads, countNarrows, pageNarrows, rfl⟩

end Sample

end Backoffice
