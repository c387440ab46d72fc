import Backoffice.Statistics.Base

/-!
# A small application

Articles with their authors, and a log whose records have a key of two columns.
Theorems with hypotheses are shown to apply to something with these collections.
-/

namespace Backoffice.Sample

/-- The application has the time zone of UTC only. -/
scoped instance : ZoneDatabase where
  zone? name := if name = "UTC" then some .utc else none

/-- Articles, each of one author. -/
def article : Declaration where
  name := "article"
  table := "articles"
  columns :=
    [(Column.named "id" .integer).asPrimaryKey, Column.named "title" .string,
     Column.named "created_at" .timestamp, Column.named "author_id" .integer]
  associations := [⟨"author", "author", .belongsTo, "author_id"⟩]

/-- Authors, each of many articles. -/
def author : Declaration where
  name := "author"
  table := "authors"
  columns := [(Column.named "id" .integer).asPrimaryKey, Column.named "name" .string]
  associations := [⟨"articles", "article", .hasMany, "author_id"⟩]

/-- Log entries under a code and a trace. -/
def log : Declaration where
  name := "log"
  table := "logs"
  columns :=
    [(Column.named "code" .string).asPrimaryKey, (Column.named "trace" .string).asPrimaryKey,
     Column.named "stack" .text]

/-- The registry of the three. -/
def registry : Registry := (Registry.build [article, author, log]).toOption.getD ⟨.empty⟩

/-- The declarations have no fault. -/
theorem build_declarations : Registry.build [article, author, log] = .ok registry := rfl

/-- A request about articles, at the start of 1970. -/
def articles : Context where
  registry := registry
  collection := article.toCollection
  dialect := .sqlite
  zone := .utc
  now := ⟨0, 0⟩
  caseSensitive := false

/-- The title of an article. -/
def title : ResolvedField where
  path := "title"
  association := none
  table := "articles"
  field :=
    { name := "title", column := "title", type := .string, isRequired := false,
      isPrimaryKey := false, enumValues := none, default := .none, rules := [] }

/-- When an article was written. -/
def createdAt : ResolvedField where
  path := "created_at"
  association := none
  table := "articles"
  field :=
    { name := "created_at", column := "created_at", type := .date, isRequired := false,
      isPrimaryKey := false, enumValues := none, default := .none, rules := [] }

/-- The line of the days on which the articles were written, but for those without
a title. -/
def days : StatQuery where
  registry := registry
  collection := article.toCollection
  settings := {}
  request :=
    { collection := "article", kind := .line, dateField := some "created_at",
      timeRange := some .day, filters := [⟨"title", "!null"⟩], combinator := .or }

end Backoffice.Sample
