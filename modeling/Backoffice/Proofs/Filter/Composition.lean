import Backoffice.Proofs.Filter.Meaning
import Backoffice.Proofs.Filter.SearchLeaves
import Backoffice.Proofs.Text.Bytes

/-!
# Composition of filters

The conditions of a specification are its plain entries and the members of its groups, in one
list (`FilterSpec.conditions`).  They stand in the order of their entries, and in a group in the
order of its members, both by bytes.

Compiling entry by entry is compiling this list from left to right
(`Context.mapM_compileEntry`).  So a composition fails with the first fault of the list, and
with that of the search when there is no other.  A composed tree has one leaf for each condition
and one for each field that takes part in the search.
-/

namespace Backoffice

/-! ## Conditions of a specification -/

/-- A condition of a specification: a plain entry or a member of a group. -/
structure FilterCondition where
  /-- The key of the entry. -/
  key : String
  /-- The key in the group, for a member of one. -/
  member : Option String
  raw : String
deriving DecidableEq

namespace FilterCondition

/-- The path of the field.  A plain entry is under it. -/
def path (c : FilterCondition) : String := c.member.getD c.key

/-- One condition comes before another: by the bytes of the keys, and in one entry by those of
the paths. -/
def Before (c other : FilterCondition) : Prop :=
  Text.bytes c.key < Text.bytes other.key ∨
    c.key = other.key ∧ Text.bytes c.path < Text.bytes other.path

end FilterCondition

/-- The conditions of the entry under a key. -/
def FilterEntry.conditions (key : String) : FilterEntry → List FilterCondition
  | plain raw => [⟨key, none, raw⟩]
  | group members => members.entries.map fun member => ⟨key, some member.1, member.2⟩

namespace FilterSpec

/-- The conditions of the entries, one after the other. -/
def conditions (spec : FilterSpec) : List FilterCondition :=
  spec.entries.entries.flatMap fun entry => entry.2.conditions entry.1

/-- The specification asks for a condition. -/
inductive Has (spec : FilterSpec) : FilterCondition → Prop where
  | plain {key raw : String} (entry : spec.entries.find? key = some (.plain raw)) :
      Has spec ⟨key, none, raw⟩
  | member {key path raw : String} {members : KeyMap String}
      (entry : spec.entries.find? key = some (.group members))
      (found : members.find? path = some raw) : Has spec ⟨key, some path, raw⟩

variable {spec : FilterSpec} {c : FilterCondition}

theorem mem_conditions : c ∈ spec.conditions ↔ spec.Has c := by
  rw [conditions, List.mem_flatMap]
  constructor
  · rintro ⟨⟨key, entry⟩, isEntry, member⟩
    rw [← KeyMap.find?_eq_some_iff] at isEntry
    cases entry with
    | plain raw =>
        cases List.mem_singleton.1 member
        exact .plain isEntry
    | group members =>
        obtain ⟨⟨path, raw⟩, isMember, rfl⟩ := List.mem_map.1 member
        exact .member isEntry (KeyMap.find?_eq_some_iff.2 isMember)
  · rintro (⟨entry⟩ | ⟨entry, found⟩)
    · exact ⟨_, KeyMap.find?_eq_some_iff.1 entry, List.mem_singleton_self _⟩
    · exact ⟨_, KeyMap.find?_eq_some_iff.1 entry,
        List.mem_map.2 ⟨_, KeyMap.find?_eq_some_iff.1 found, rfl⟩⟩

theorem key_of_mem_conditions {key : String} {entry : FilterEntry}
    (member : c ∈ entry.conditions key) : c.key = key := by
  cases entry with
  | plain raw => rw [List.mem_singleton.1 member]
  | group members =>
      obtain ⟨_, _, rfl⟩ := List.mem_map.1 member
      rfl

/-- Each condition comes before those after it. -/
theorem pairwise_conditions (spec : FilterSpec) :
    spec.conditions.Pairwise FilterCondition.Before := by
  rw [conditions, List.pairwise_flatMap]
  constructor
  · rintro ⟨key, entry⟩ _
    cases entry with
    | plain raw => exact List.pairwise_singleton _ _
    | group members =>
        refine List.pairwise_map.2 (members.rising.imp fun less => ?_)
        exact .inr ⟨rfl, Text.lt_iff_bytes_lt.1 less⟩
  · refine spec.entries.rising.imp fun less c member other otherMember => .inl ?_
    rw [key_of_mem_conditions member, key_of_mem_conditions otherMember]
    exact Text.lt_iff_bytes_lt.1 less

end FilterSpec

/-! ## Compiling conditions -/

namespace Context

/-- A condition of a specification, compiled. -/
def compileCondition (ctx : Context) (c : FilterCondition) : Except Error Predicate :=
  ctx.compileRaw c.path c.raw

variable {ctx : Context} {spec : FilterSpec}

/-- An entry is compiled by compiling its conditions. -/
theorem compileEntry_conditions (entry : String × FilterEntry) :
    (ctx.compileEntry entry).map CompiledEntry.predicates =
      (entry.2.conditions entry.1).mapM ctx.compileCondition := by
  obtain ⟨key, entry⟩ := entry
  cases entry with
  | plain raw =>
      have single : [(⟨key, none, raw⟩ : FilterCondition)].mapM ctx.compileCondition =
          (ctx.compileRaw key raw).map fun p => [p] := by
        rw [List.mapM_cons, List.mapM_nil]
        show (ctx.compileRaw key raw >>= fun p => _) = _
        cases ctx.compileRaw key raw with
        | error e => rfl
        | ok p => rfl
      show ((ctx.compileRaw key raw).map CompiledEntry.plain).map _ = [_].mapM _
      rw [single]
      cases ctx.compileRaw key raw with
      | error e => rfl
      | ok p => rfl
  | group members =>
      have each : (members.entries.map fun m => (⟨key, some m.1, m.2⟩ : FilterCondition)).mapM
          ctx.compileCondition = members.entries.mapM fun m => ctx.compileRaw m.1 m.2 := by
        rw [List.mapM_map]
        rfl
      show ((members.entries.mapM fun m =>
        ctx.compileRaw m.1 m.2).map CompiledEntry.group).map _ = _
      rw [FilterEntry.conditions, each]
      cases members.entries.mapM fun m => ctx.compileRaw m.1 m.2 with
      | error e => rfl
      | ok ps => rfl

/-- Compiling the entries is compiling their conditions from left to right. -/
theorem mapM_compileEntry (spec : FilterSpec) :
    (spec.entries.entries.mapM ctx.compileEntry).map (·.flatMap CompiledEntry.predicates) =
      spec.conditions.mapM ctx.compileCondition := by
  rw [FilterSpec.conditions, mapM_flatMap]
  simp only [← compileEntry_conditions, ← map_mapM]
  cases spec.entries.entries.mapM ctx.compileEntry with
  | error e => rfl
  | ok entries =>
      exact congrArg Except.ok List.flatMap_def

theorem exists_mapM_compileEntry_iff :
    (∃ entries, spec.entries.entries.mapM ctx.compileEntry = .ok entries) ↔
      ∀ c ∈ spec.conditions, ∃ p, ctx.compileCondition c = .ok p := by
  rw [← exists_mapM_eq_ok, ← mapM_compileEntry]
  simp only [Except.map_eq_ok]
  exact ⟨fun ⟨entries, compiled⟩ => ⟨_, entries, compiled, rfl⟩,
    fun ⟨_, entries, compiled, _⟩ => ⟨entries, compiled⟩⟩

theorem mapM_compileEntry_eq_error {e : Error} :
    spec.entries.entries.mapM ctx.compileEntry = .error e ↔
      FirstFault ctx.compileCondition spec.conditions e := by
  rw [← mapM_eq_error, ← mapM_compileEntry, Except.map_eq_error]

/-! ## Success and failure -/

/-- A specification composes when each of its conditions compiles and its search does. -/
theorem exists_compose_iff :
    (∃ tree, ctx.compose spec = .ok tree) ↔
      (∀ c ∈ spec.conditions, ∃ p, ctx.compileCondition c = .ok p) ∧
        ∀ text ∈ spec.searchText?, ∃ found, ctx.search text spec.extended = .ok found := by
  rw [← exists_mapM_compileEntry_iff]
  simp only [compose_eq_ok]
  constructor
  · rintro ⟨_, entries, compiled, ⟨blank, _⟩ | ⟨text, found, isText, searched, _⟩⟩
    · exact ⟨⟨entries, compiled⟩, by simp [blank]⟩
    · refine ⟨⟨entries, compiled⟩, fun other isOther => ?_⟩
      cases isText.symm.trans isOther
      exact ⟨found, searched⟩
  · rintro ⟨⟨entries, compiled⟩, searches⟩
    cases isText : spec.searchText? with
    | none => exact ⟨_, entries, compiled, .inl ⟨rfl, rfl⟩⟩
    | some text =>
        obtain ⟨found, searched⟩ := searches text isText
        exact ⟨_, entries, compiled, .inr ⟨text, found, rfl, searched, rfl⟩⟩

/-- A composition fails with the first fault of the entries, or else with that of the search. -/
theorem compose_eq_error {e : Error} :
    ctx.compose spec = .error e ↔
      spec.entries.entries.mapM ctx.compileEntry = .error e ∨
        (∃ entries, spec.entries.entries.mapM ctx.compileEntry = .ok entries) ∧
          ∃ text ∈ spec.searchText?, ctx.search text spec.extended = .error e := by
  rw [compose, Except.bind_eq_error]
  cases spec.searchText? with
  | none => simp [pure, Except.pure]
  | some text => simp [Except.bind_eq_error, pure, Except.pure]

end Context

/-- The fault of a specification: the first one of its conditions, and that of its search when
every condition compiles. -/
inductive FilterSpec.Fault (spec : FilterSpec) (ctx : Context) : Error → Prop where
  | condition {e : Error} (first : FirstFault ctx.compileCondition spec.conditions e) :
      Fault spec ctx e
  | search {e : Error} {text : String} (isText : spec.searchText? = some text)
      (compiled : ∀ c ∈ spec.conditions, ∃ p, ctx.compileCondition c = .ok p)
      (fault : ctx.search text spec.extended = .error e) : Fault spec ctx e

theorem Context.compose_eq_error_iff_fault {ctx : Context} {spec : FilterSpec} {e : Error} :
    ctx.compose spec = .error e ↔ spec.Fault ctx e := by
  rw [compose_eq_error, mapM_compileEntry_eq_error, exists_mapM_compileEntry_iff]
  constructor
  · rintro (first | ⟨compiled, text, isText, fault⟩)
    · exact .condition first
    · exact .search isText compiled fault
  · rintro (first | ⟨isText, compiled, fault⟩)
    · exact .inl first
    · exact .inr ⟨compiled, _, isText, fault⟩

/-! ## Leaves -/

namespace FilterTree

variable {α : Type}

theorem leavesOf_append (trees others : List (FilterTree α)) :
    leavesOf (trees ++ others) = leavesOf trees ++ leavesOf others := by
  induction trees with
  | nil => rfl
  | cons tree rest ih => rw [List.cons_append, leavesOf, leavesOf, ih, List.append_assoc]

@[simp] theorem leaves_join (combinator : Combinator) (trees : List (FilterTree α)) :
    (combinator.join trees).leaves = leavesOf trees := by
  cases combinator with
  | and => rw [Combinator.join, leaves]
  | or => rw [Combinator.join, leaves]

/-- The conjunctions of some lists of conditions have their conditions. -/
theorem leavesOf_groups (groups : List (List α)) :
    leavesOf (groups.map fun members => all (members.map leaf)) = groups.flatten := by
  induction groups with
  | nil => rfl
  | cons members rest ih =>
      rw [List.map_cons, leavesOf, leaves, leavesOf_leaves, ih, List.flatten_cons]

end FilterTree

/-- The leaves of a tree of entries are the plain ones and then the members of the groups. -/
theorem Combinator.leaves_tree (combinator : Combinator) (entries : List CompiledEntry) :
    (combinator.tree entries).leaves = entries.filterMap CompiledEntry.plain? ++
      (entries.filterMap CompiledEntry.group?).flatten := by
  rw [tree, ← FilterTree.leavesOf_groups]
  conv_rhs => rw [← FilterTree.leavesOf_leaves (entries.filterMap CompiledEntry.plain?)]
  generalize (entries.filterMap CompiledEntry.plain?).map FilterTree.leaf = plain
  generalize (entries.filterMap CompiledEntry.group?).map
    (fun members => FilterTree.all (members.map .leaf)) = groups
  cases groups with
  | nil =>
      cases plain with
      | nil => rfl
      | cons => simp [FilterTree.leavesOf]
  | cons => simp [FilterTree.leavesOf_append, FilterTree.leavesOf, FilterTree.leaves]

namespace FilterSpec

/-- The conditions that are plain entries. -/
def plainConditions (spec : FilterSpec) : List FilterCondition :=
  spec.conditions.filter (·.member.isNone)

/-- The conditions that are members of groups. -/
def groupConditions (spec : FilterSpec) : List FilterCondition :=
  spec.conditions.filter (·.member.isSome)

end FilterSpec

namespace Context

variable {ctx : Context} {spec : FilterSpec}

/-- The predicate is what a condition compiles to. -/
def Compiles (ctx : Context) (c : FilterCondition) (p : Predicate) : Prop :=
  ctx.compileCondition c = .ok p

theorem compiles_members {key : String} {members : KeyMap String} {ps : List Predicate}
    (compiled : members.entries.mapM (fun m => ctx.compileRaw m.1 m.2) = .ok ps) :
    List.Forall₂ ctx.Compiles ((FilterEntry.group members).conditions key) ps := by
  rw [FilterEntry.conditions, List.forall₂_map_left_iff]
  exact mapM_eq_ok.1 compiled

/-- Plain entries and members of groups compile to the plain and to the grouped predicates. -/
theorem compiles_conditions {entries : List CompiledEntry}
    (compiled : spec.entries.entries.mapM ctx.compileEntry = .ok entries) :
    List.Forall₂ ctx.Compiles spec.plainConditions (entries.filterMap CompiledEntry.plain?) ∧
      List.Forall₂ ctx.Compiles spec.groupConditions
        (entries.filterMap CompiledEntry.group?).flatten := by
  rw [FilterSpec.plainConditions, FilterSpec.groupConditions, FilterSpec.conditions]
  generalize spec.entries.entries = items at compiled
  rw [mapM_eq_ok] at compiled
  induction compiled with
  | nil => exact ⟨.nil, .nil⟩
  | @cons item entry rest others isEntry _ ih =>
      obtain ⟨key, item⟩ := item
      rw [List.flatMap_cons, List.filter_append, List.filter_append]
      cases item with
      | plain raw =>
          obtain ⟨p, isCompiled, rfl⟩ := Except.map_eq_ok.1 isEntry
          exact ⟨.cons isCompiled ih.1, ih.2⟩
      | group members =>
          obtain ⟨ps, areCompiled, rfl⟩ := Except.map_eq_ok.1 isEntry
          have ofGroup :
              List.Forall₂ ctx.Compiles ((FilterEntry.group members).conditions key) ps :=
            compiles_members areCompiled
          have notPlain : ((FilterEntry.group members).conditions key).filter
              (·.member.isNone) = [] := by
            rw [FilterEntry.conditions, List.filter_map]
            simp [Function.comp_def]
          have allMembers : ((FilterEntry.group members).conditions key).filter
              (·.member.isSome) = (FilterEntry.group members).conditions key := by
            refine List.filter_eq_self.2 fun c isMember => ?_
            obtain ⟨_, _, rfl⟩ := List.mem_map.1 isMember
            rfl
          rw [notPlain, allMembers]
          exact ⟨ih.1, List.rel_append ofGroup ih.2⟩

end Context

/-! ## Composed trees -/

/-- The conditions that the search of a specification asks: none without a search text, and
else one of each field that takes part, of those found under the paths of the candidates. -/
def FilterSpec.Asks (spec : FilterSpec) (ctx : Context) (searched : List Predicate) : Prop :=
  match spec.searchText? with
  | none => searched = []
  | some text => ∃ fields, ctx.Finds (ctx.candidates spec.extended) fields ∧
      fields.filterMap (·.searchLeaf? ctx.dialect text) = searched

/-- The leaves of a tree are those of a specification, and its associations are theirs. -/
structure FilterTree.IsOf (tree : FilterTree Predicate) (ctx : Context) (spec : FilterSpec) :
    Prop where
  /-- Each plain entry has a leaf, then each member of a group, and then each field that takes
  part in the search. -/
  leaves : ∃ plain grouped searched, List.Forall₂ ctx.Compiles spec.plainConditions plain ∧
    List.Forall₂ ctx.Compiles spec.groupConditions grouped ∧ spec.Asks ctx searched ∧
    tree.leaves = plain ++ grouped ++ searched
  associations : ∀ name, name ∈ tree.associations ↔ ∃ p ∈ tree.leaves, p.association = some name
  /-- Each association is given once. -/
  once : tree.associations.Nodup

theorem Context.isOf_of_compose {ctx : Context} {spec : FilterSpec} {tree : FilterTree Predicate}
    (composed : ctx.compose spec = .ok tree) : tree.IsOf ctx spec where
  leaves := by
    obtain ⟨entries, compiled, rest⟩ := compose_eq_ok.1 composed
    obtain ⟨plain, grouped⟩ := compiles_conditions compiled
    rcases rest with ⟨blank, rfl⟩ | ⟨text, found, isText, searched, rfl⟩
    · refine ⟨_, _, [], plain, grouped, ?_, ?_⟩
      · rw [FilterSpec.Asks, blank]
      · rw [Combinator.leaves_tree, List.append_nil]
    · refine ⟨_, _, found.leaves, plain, grouped, ?_, ?_⟩
      · rw [FilterSpec.Asks, isText]
        obtain ⟨fields, finds, rfl⟩ := search_eq_any searched
        exact ⟨fields, finds, by rw [FilterTree.leaves, FilterTree.leavesOf_leaves]⟩
      · simp [FilterTree.leaves, FilterTree.leavesOf, Combinator.leaves_tree]
  associations name := by
    rw [FilterTree.associations, mem_sortedNames, List.mem_filterMap]
  once := nodup_sortedNames

/-- Composition is all or nothing.  It succeeds when every condition compiles and the search
does, and otherwise the fault is the first one in the order of the bytes of the keys, and that
of the search when every condition compiles.  A composed tree has the leaves of all conditions
and of all fields that take part in the search, each once and no others, and their
associations. -/
theorem compositions_are_all_or_nothing (ctx : Context) (spec : FilterSpec) :
    (spec.conditions.Pairwise FilterCondition.Before ∧ ∀ c, c ∈ spec.conditions ↔ spec.Has c) ∧
    ((∃ tree, ctx.compose spec = .ok tree) ↔
      (∀ c ∈ spec.conditions, ∃ p, ctx.compileRaw c.path c.raw = .ok p) ∧
        ∀ text ∈ spec.searchText?, ∃ found, ctx.search text spec.extended = .ok found) ∧
    (∀ e, ctx.compose spec = .error e ↔ spec.Fault ctx e) ∧
    ∀ tree, ctx.compose spec = .ok tree → tree.IsOf ctx spec :=
  ⟨⟨spec.pairwise_conditions, fun _ => FilterSpec.mem_conditions⟩, Context.exists_compose_iff,
    fun _ => Context.compose_eq_error_iff_fault, fun _ => Context.isOf_of_compose⟩

/-- A specification with a fault in a group and one in a plain entry after it. -/
def Sample.faulty : FilterSpec where
  entries := .ofList
    [("title", .plain "$present"), ("zip", .plain "1"),
     ("group", .group (.ofList [("title", "!x"), ("street", "y")]))]
  combinator := .and
  search := none

theorem compositions_are_all_or_nothing_of_articles :
    (∃ tree, Sample.articles.compose Sample.spec = .ok tree ∧
      tree.IsOf Sample.articles Sample.spec) ∧
    ∃ e, Sample.articles.compose Sample.faulty = .error e ∧
      Sample.faulty.Fault Sample.articles e := by
  constructor
  · have composed : ∃ tree, Sample.articles.compose Sample.spec = .ok tree := ⟨_, rfl⟩
    obtain ⟨tree, composed⟩ := composed
    exact ⟨tree, composed,
      (compositions_are_all_or_nothing Sample.articles Sample.spec).2.2.2 tree composed⟩
  · have fails : ∃ e, Sample.articles.compose Sample.faulty = .error e := ⟨_, rfl⟩
    obtain ⟨e, fails⟩ := fails
    exact ⟨e, fails,
      ((compositions_are_all_or_nothing Sample.articles Sample.faulty).2.2.1 e).1 fails⟩

end Backoffice
