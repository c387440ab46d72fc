import Backoffice.Proofs.Outcome
import Backoffice.Statistics.Line
import Backoffice.Statistics.Pie

/-!
# The statements of statistics

A statistic compiles when each of its parts does, and its statement is then made of the
parts (`Pie.statement_eq_ok`, `Line.plan_eq_ok`).  A pie and a line have the same parts, but
for the field they group by and for the periods of a line.
-/

namespace Backoffice

open StatQuery (bucketAlias keyAlias valueAlias)

/-- What the statement of a statistic is made of. -/
structure StatParts where
  context : Context
  /-- The field that it groups by. -/
  key : ResolvedField
  /-- The field that is summed, if one is. -/
  summed : Option ResolvedField
  /-- The tree of the filters. -/
  tree : FilterTree Predicate
  /-- The tables and the condition. -/
  base : Sql.Select

namespace StatParts

/-- The fields that a statistic is joined for. -/
def fields (p : StatParts) : List ResolvedField := p.key :: p.summed.toList

/-- The statement of a pie. -/
def pie (p : StatParts) : Sql.Select :=
  { p.base with
    outputs := [(.column p.key.ref, keyAlias), (StatQuery.figure p.summed, valueAlias)]
    groups := [.column p.key.ref]
    order := [(.named valueAlias, .descending)] }

/-- The statement of a line. -/
def line (p : StatParts) : Sql.Select :=
  { p.base.restrict (.isNotNull p.key.ref) with
    outputs := [(Line.slot p.key, bucketAlias), (StatQuery.figure p.summed, valueAlias)]
    groups := [Line.slot p.key]
    order := [(.output (Line.slot p.key), .ascending)] }

end StatParts

/-- The parts of a statistic at an instant. -/
structure StatQuery.HasParts [ZoneDatabase] (q : StatQuery) (d : Sql.Dialect) (now : Instant)
    (keyField : Context → StatRequest → Except Error ResolvedField) (p : StatParts) : Prop where
  context_eq : q.context d now = .ok p.context
  key_eq : keyField p.context q.request = .ok p.key
  summed_eq : summedField p.context q.request = .ok p.summed
  tree_eq : p.context.compose q.request.filterSpec = .ok p.tree
  base_eq : p.context.baseSelect p.tree (p.fields.filterMap (·.associationName)) = .ok p.base

variable {q : StatQuery} {d : Sql.Dialect} {now : Instant}

theorem Pie.statement_eq_ok [ZoneDatabase] {s : Sql.Select} :
    statement q d now = .ok s ↔ ∃ p, q.HasParts d now groupField p ∧ p.pie = s := by
  rw [statement]
  simp only [Except.bind_eq_ok, StatQuery.baseSelect]
  constructor
  · rintro ⟨ctx, isContext, group, isGroup, summed, isSummed, base, ⟨tree, isTree, isBase⟩, rest⟩
    cases rest
    exact ⟨⟨ctx, group, summed, tree, base⟩, ⟨isContext, isGroup, isSummed, isTree, isBase⟩, rfl⟩
  · rintro ⟨p, parts, rfl⟩
    exact ⟨p.context, parts.context_eq, p.key, parts.key_eq, p.summed, parts.summed_eq, p.base,
      ⟨p.tree, parts.tree_eq, parts.base_eq⟩, rfl⟩

theorem Line.plan_eq_ok [ZoneDatabase] {l : LinePlan} :
    plan q d now = .ok l ↔ ∃ p range, q.HasParts d now dateField p ∧
      timeRange q.request = .ok range ∧
      ⟨p.line, p.key.type, p.context.zone, range, q.request.aggregate⟩ = l := by
  rw [plan]
  simp only [Except.bind_eq_ok, StatQuery.baseSelect]
  constructor
  · rintro ⟨ctx, isContext, date, isDate, range, isRange, summed, isSummed, base,
      ⟨tree, isTree, isBase⟩, rest⟩
    cases rest
    exact ⟨⟨ctx, date, summed, tree, base⟩, range,
      ⟨isContext, isDate, isSummed, isTree, isBase⟩, isRange, rfl⟩
  · rintro ⟨p, range, parts, isRange, rfl⟩
    exact ⟨p.context, parts.context_eq, p.key, parts.key_eq, range, isRange, p.summed,
      parts.summed_eq, p.base, ⟨p.tree, parts.tree_eq, parts.base_eq⟩, rfl⟩

end Backoffice
