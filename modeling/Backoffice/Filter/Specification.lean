import Backoffice.Filter.Search
import Backoffice.Text.Blank

/-!
# Filter specifications

A `FilterSpec` is what a request asks for: filter values under field paths, named
groups of such values, and a search text.  It is composed to the tree

    all [combinator [plain…, any [all [group 1], …, all [group n]]], search]

where the middle part is missing without groups and the last part without a
search text.  Without entries nothing is filtered, whatever the combinator is.

Every condition is compiled before there is an answer.  The first fault in the
order of the entries is the answer, and a fault of the search comes last.
-/

namespace Backoffice

/-- How the entries of a filter are joined. -/
inductive Combinator where
  | and
  | or
deriving DecidableEq, Repr, Inhabited

/-- One entry of a filter. -/
inductive FilterEntry where
  /-- A filter value.  The key of the entry is the path of a field. -/
  | plain (raw : String)
  /-- Filter values under their paths, all of which hold. -/
  | group (members : KeyMap String)
deriving DecidableEq

/-- What a request asks for. -/
structure FilterSpec where
  entries : KeyMap FilterEntry := .empty
  /-- How they are joined. -/
  combinator : Combinator := .and
  /-- The search text. -/
  search : Option String := none
  /-- Whether the search goes through associations. -/
  extended : Bool := false
deriving DecidableEq

/-- A tree of the given kind. -/
def Combinator.join {α : Type} (combinator : Combinator) (trees : List (FilterTree α)) :
    FilterTree α :=
  match combinator with
  | and => .all trees
  | or => .any trees

/-- The search text without the blanks around it, when something is left. -/
def FilterSpec.searchText? (spec : FilterSpec) : Option String :=
  (spec.search.map Text.trimString).filter (· ≠ "")

/-! ## Compiled entries -/

/-- A compiled entry of a filter. -/
inductive CompiledEntry where
  | plain (predicate : Predicate)
  | group (members : List Predicate)

namespace CompiledEntry

/-- The compiled condition of a plain entry. -/
def plain? : CompiledEntry → Option Predicate
  | plain predicate => some predicate
  | group _ => none

/-- The compiled conditions of a group. -/
def group? : CompiledEntry → Option (List Predicate)
  | plain _ => none
  | group members => some members

end CompiledEntry

/-- The tree of compiled entries. -/
def Combinator.tree (combinator : Combinator) (entries : List CompiledEntry) :
    FilterTree Predicate :=
  let plain := (entries.filterMap CompiledEntry.plain?).map FilterTree.leaf
  let groups := (entries.filterMap CompiledEntry.group?).map fun members =>
    FilterTree.all (members.map .leaf)
  let operands := if groups.isEmpty then plain else plain ++ [.any groups]
  if operands.isEmpty then .always else combinator.join operands

namespace Context

/-- An entry, compiled. -/
def compileEntry (ctx : Context) : String × FilterEntry → Except Error CompiledEntry
  | (path, .plain raw) => (ctx.compileRaw path raw).map .plain
  | (_, .group members) =>
      (members.entries.mapM fun (path, raw) => ctx.compileRaw path raw).map .group

/-- The tree of a filter specification. -/
def compose (ctx : Context) (spec : FilterSpec) : Except Error (FilterTree Predicate) := do
  let entries ← spec.entries.entries.mapM ctx.compileEntry
  let filters := spec.combinator.tree entries
  match spec.searchText? with
  | none => return filters
  | some text =>
      let found ← ctx.search text spec.extended
      return .all [filters, found]

end Context

end Backoffice
