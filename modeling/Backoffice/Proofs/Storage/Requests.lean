import Backoffice.Proofs.Listing.Statements
import Backoffice.Proofs.Sample
import Backoffice.Proofs.Statistics.Statements
import Backoffice.Proofs.Storage.Plan
import Backoffice.Proofs.Storage.Rows

/-!
# Requests and the storage

A request that compiles has a plan: a list counts and then asks for a page, and any other
request makes one call.  A request with a part that fails has no plan, and sends nothing
(`storage_sees_compiled_requests`).
-/

namespace Backoffice

open StatQuery (bucketAlias valueAlias)

/-! ## Rows that can be read -/

/-- The number of records can be read.  Without a row there are none. -/
def ListQuery.ReadsTotal (rows : List Row) : Prop :=
  ∀ row ∈ rows.head?, ∃ n, row.count countAlias = .ok n

/-- The figure of every row can be read. -/
def Pie.Reads (rows : List Row) : Prop := ∀ row ∈ rows, ∃ figure, row.figure valueAlias = .ok figure

/-- The day of every row can be read, and where there is one the figure too.  The period of the
day starts in the calendar. -/
def Line.Reads (p : LinePlan) (rows : List Row) : Prop :=
  ∀ row ∈ rows, ∃ day, rowDay p row = .ok day ∧ ∀ d ∈ day,
    (p.range.start d).inCalendar = true ∧ ∃ figure, row.figure valueAlias = .ok figure

theorem ListQuery.readsTotal_iff {rows : List Row} : ReadsTotal rows ↔ ∃ n, total rows = .ok n := by
  cases rows with
  | nil => simp [ReadsTotal, total]
  | cons row rest => simp [ReadsTotal, total]

theorem ListQuery.total_eq_error {rows : List Row} {e : Error} (fault : total rows = .error e) :
    e = .storage (.unreadable countAlias) := by
  cases rows with
  | nil => cases fault
  | cons row rest => exact Row.count_eq_error fault

theorem Pie.reads_iff {rows : List Row} :
    Reads rows ↔ ∃ entries, rows.mapM entry = .ok entries := by
  rw [exists_mapM_eq_ok]
  refine forall₂_congr fun row _ => ?_
  simp [entry, Except.map_eq_ok]

theorem Pie.entries_eq_error {rows : List Row} {e : Error} (fault : rows.mapM entry = .error e) :
    e = .storage (.unreadable valueAlias) := by
  obtain ⟨row, _, fault⟩ := exists_item_of_mapM_eq_error fault
  exact Row.figure_eq_error (Except.map_eq_error.1 fault)

namespace Line

variable {p : LinePlan} {row : Row} {rows : List Row}

/-- Whether a row can be added does not depend on the tallies so far. -/
theorem exists_addRow_iff (tallies : Tallies) :
    (∃ result, addRow p tallies row = .ok result) ↔ ∃ day, rowDay p row = .ok day ∧ ∀ d ∈ day,
      (p.range.start d).inCalendar = true ∧ ∃ figure, row.figure valueAlias = .ok figure := by
  simp only [addRow_eq_ok]
  constructor
  · rintro ⟨result, ⟨isDay, _⟩ | ⟨d, isDay, inCalendar, figure, isFigure, _⟩⟩
    · exact ⟨none, isDay, by simp⟩
    · exact ⟨some d, isDay, by simp [inCalendar, isFigure]⟩
  · rintro ⟨day, isDay, reads⟩
    cases day with
    | none => exact ⟨tallies, .inl ⟨isDay, rfl⟩⟩
    | some d =>
        obtain ⟨inCalendar, figure, isFigure⟩ := reads d rfl
        exact ⟨_, .inr ⟨d, isDay, inCalendar, figure, isFigure, rfl⟩⟩

/-- Rows can be added up when each of them can be read. -/
theorem reads_iff : Reads p rows ↔ ∃ result, entries p rows = .ok result := by
  have folded : ∀ tallies,
      Reads p rows ↔ ∃ result, rows.foldlM (addRow p) tallies = .ok result := by
    induction rows with
    | nil => simp [Reads, pure, Except.pure]
    | cons row rest ih =>
        intro tallies
        rw [Reads, List.forall_mem_cons, List.foldlM_cons, ← exists_addRow_iff tallies]
        simp only [Except.bind_eq_ok]
        constructor
        · rintro ⟨⟨first, isFirst⟩, others⟩
          obtain ⟨result, isResult⟩ := (ih first).1 others
          exact ⟨result, first, isFirst, isResult⟩
        · rintro ⟨result, first, isFirst, isResult⟩
          exact ⟨⟨first, isFirst⟩, (ih first).2 ⟨result, isResult⟩⟩
  rw [folded [], entries]
  simp [Except.bind_eq_ok, pure, Except.pure]

theorem foldlM_addRow_eq_error {tallies : Tallies} {e : Error}
    (fault : rows.foldlM (addRow p) tallies = .error e) :
    (∃ column, e = .storage (.unreadable column)) ∨
      (∃ row ∈ rows, Stops p row) ∧ e = .stopped := by
  induction rows generalizing tallies with
  | nil => cases fault
  | cons row rest ih =>
      rw [List.foldlM_cons, Except.bind_eq_error] at fault
      rcases fault with here | ⟨first, _, later⟩
      · exact (addRow_eq_error here).imp_right fun ⟨stops, isStop⟩ =>
          ⟨⟨row, List.mem_cons_self, stops⟩, isStop⟩
      · exact (ih later).imp_right fun ⟨⟨row, member, stops⟩, isStop⟩ =>
          ⟨⟨row, .tail _ member, stops⟩, isStop⟩

theorem entries_eq_error {e : Error} (fault : entries p rows = .error e) :
    (∃ column, e = .storage (.unreadable column)) ∨
      (∃ row ∈ rows, Stops p row) ∧ e = .stopped := by
  rcases Except.bind_eq_error.1 fault with added | ⟨tallies, _, fault⟩
  · exact foldlM_addRow_eq_error added
  · cases fault

end Line

/-! ## Sessions of compiled requests -/

section
variable {d : Sql.Dialect} {now : Instant}

/-- The call for a record. -/
def RecordParts.call (p : RecordParts) (c : Collection) : Call :=
  { statement := p.statement c, Reads := fun _ => True }

/-- The call of a pie. -/
def StatParts.pieCall (p : StatParts) : Call := { statement := p.pie, Reads := Pie.Reads }

/-- The call of a line with periods of a length and figures of a kind. -/
def StatParts.lineCall (p : StatParts) (range : TimeRange) (aggregate : Aggregate) : Call :=
  let line : LinePlan := ⟨p.line, p.key.type, p.context.zone, range, aggregate⟩
  { statement := p.line, Reads := Line.Reads line
    Stops := fun rows => ∃ row ∈ rows, Line.Stops line row }

/-- The calls of a list.  The page is asked for after the records have been counted. -/
def ListParts.calls (p : ListParts) (c : Collection) : List Call :=
  [{ statement := (p.statements c).count, Reads := ListQuery.ReadsTotal },
    { statement := (p.statements c).page, Reads := fun _ => True }]

theorem ListQuery.follows [ZoneDatabase] {q : ListQuery} {p : ListParts}
    (parts : q.HasParts d now p) :
    (q.session d now).Follows (p.calls q.collection) := by
  rw [session, statements_eq_ok.2 ⟨p, parts, rfl⟩]
  refine .ask (fun e => rfl) (fun rows unread => ?_) fun rows reads => ?_
  · cases counted : total rows with
    | ok n => exact absurd (readsTotal_iff.2 ⟨n, counted⟩) unread
    | error e => exact .inl ⟨countAlias, by simp only [counted, total_eq_error counted]⟩
  · obtain ⟨n, counted⟩ := readsTotal_iff.1 reads
    simp only [counted]
    exact Session.follows_query (by simp) (by simp)

theorem RecordQuery.follows [ZoneDatabase] {q : RecordQuery} {p : RecordParts}
    (parts : q.HasParts d now p) :
    (q.session d now).Follows [p.call q.collection] := by
  rw [session, statement_eq_ok.2 ⟨p, parts, rfl⟩]
  exact Session.follows_query (by simp) (by simp)

theorem Pie.follows [ZoneDatabase] {q : StatQuery} {p : StatParts}
    (parts : q.HasParts d now groupField p) :
    (session q d now).Follows [p.pieCall] := by
  rw [session, statement_eq_ok.2 ⟨p, parts, rfl⟩]
  exact Session.follows_query (fun rows => reads_iff) fun rows e fault =>
    .inl ⟨valueAlias, entries_eq_error fault⟩

theorem Line.follows [ZoneDatabase] {q : StatQuery} {p : StatParts} {range : TimeRange}
    (parts : q.HasParts d now dateField p) (isRange : timeRange q.request = .ok range) :
    (session q d now).Follows [p.lineCall range q.request.aggregate] := by
  rw [session, plan_eq_ok.2 ⟨p, range, parts, isRange, rfl⟩]
  exact Session.follows_query (fun rows => reads_iff) fun rows e fault => entries_eq_error fault

end

/-! ## Plans of requests -/

/-- What a client asks for. -/
inductive Request where
  /-- A page of a collection. -/
  | list (collection : String) (params : ListParams)
  /-- A page of the records that belong to a record through an association. -/
  | children (collection recordId association : String) (params : ListParams)
  /-- A record by its id. -/
  | record (collection recordId : String)
  | pie (request : StatRequest)
  | line (request : StatRequest)

namespace Request

/-- The answer to a request. -/
def Answer : Request → Type
  | list .. | children .. => Nat × List Json
  | record .. => Option Json
  | pie _ => List PieEntry
  | line _ => List LineEntry

section
variable (registry : Registry) (settings : Settings) (d : Sql.Dialect) (now : Instant)

/-- What a request does with the storage. -/
def session [ZoneDatabase] : (r : Request) → Session r.Answer
  | list collection params =>
      .ofCompiled (ListQuery.ofCollection registry collection params settings) fun q =>
        q.session d now
  | children collection recordId association params =>
      .ofCompiled (ListQuery.ofParent registry collection recordId association params settings)
        fun q => q.session d now
  | record collection recordId =>
      .ofCompiled (RecordQuery.ofCollection registry collection recordId settings) fun q =>
        q.session d now
  | pie request =>
      .ofCompiled (StatQuery.ofRequest .pie registry request settings) fun q =>
        Pie.session q d now
  | line request =>
      .ofCompiled (StatQuery.ofRequest .line registry request settings) fun q =>
        Line.session q d now

/-- Every part of a request resolves, parses and compiles, and the calls are these. -/
inductive Compiles [ZoneDatabase] : Request → List Call → Prop where
  | list {collection : String} {params : ListParams} {q : ListQuery} {p : ListParts}
      (asked : ListQuery.ofCollection registry collection params settings = .ok q)
      (parts : q.HasParts d now p) :
      Compiles (.list collection params) (p.calls q.collection)
  | children {collection recordId association : String} {params : ListParams} {q : ListQuery}
      {p : ListParts}
      (asked : ListQuery.ofParent registry collection recordId association params settings = .ok q)
      (parts : q.HasParts d now p) :
      Compiles (.children collection recordId association params) (p.calls q.collection)
  | record {collection recordId : String} {q : RecordQuery} {p : RecordParts}
      (asked : RecordQuery.ofCollection registry collection recordId settings = .ok q)
      (parts : q.HasParts d now p) :
      Compiles (.record collection recordId) [p.call q.collection]
  | pie {request : StatRequest} {q : StatQuery} {p : StatParts}
      (asked : StatQuery.ofRequest .pie registry request settings = .ok q)
      (parts : q.HasParts d now Pie.groupField p) :
      Compiles (.pie request) [p.pieCall]
  | line {request : StatRequest} {q : StatQuery} {p : StatParts} {range : TimeRange}
      (asked : StatQuery.ofRequest .line registry request settings = .ok q)
      (parts : q.HasParts d now Line.dateField p)
      (isRange : Line.timeRange q.request = .ok range) :
      Compiles (.line request) [p.lineCall range q.request.aggregate]

end

variable {registry : Registry} {settings : Settings} {d : Sql.Dialect} {now : Instant}

theorem Compiles.follows [ZoneDatabase] {r : Request} {plan : List Call}
    (compiles : r.Compiles registry settings d now plan) :
    (r.session registry settings d now).Follows plan := by
  cases compiles with
  | list asked parts | children asked parts =>
      rw [session, asked]
      exact ListQuery.follows parts
  | record asked parts =>
      rw [session, asked]
      exact RecordQuery.follows parts
  | pie asked parts =>
      rw [session, asked]
      exact Pie.follows parts
  | line asked parts isRange =>
      rw [session, asked]
      exact Line.follows parts isRange

/-- Without a plan a request ends before it sends anything. -/
theorem session_eq_done [ZoneDatabase] (r : Request)
    (fails : ∀ plan, ¬ r.Compiles registry settings d now plan) :
    ∃ e, r.session registry settings d now = .done (.error e) := by
  cases r with
  | list collection params =>
      refine Session.ofCompiled_eq_done fun q asked =>
        Session.ofCompiled_eq_done fun st compiles => ?_
      obtain ⟨p, parts, _⟩ := ListQuery.statements_eq_ok.1 compiles
      exact absurd (.list asked parts) (fails _)
  | children collection recordId association params =>
      refine Session.ofCompiled_eq_done fun q asked =>
        Session.ofCompiled_eq_done fun st compiles => ?_
      obtain ⟨p, parts, _⟩ := ListQuery.statements_eq_ok.1 compiles
      exact absurd (.children asked parts) (fails _)
  | record collection recordId =>
      refine Session.ofCompiled_eq_done fun q asked =>
        Session.ofCompiled_eq_done fun s compiles => ?_
      obtain ⟨p, parts, _⟩ := RecordQuery.statement_eq_ok.1 compiles
      exact absurd (.record asked parts) (fails _)
  | pie request =>
      refine Session.ofCompiled_eq_done fun q asked =>
        Session.ofCompiled_eq_done fun s compiles => ?_
      obtain ⟨p, parts, _⟩ := Pie.statement_eq_ok.1 compiles
      exact absurd (.pie asked parts) (fails _)
  | line request =>
      refine Session.ofCompiled_eq_done fun q asked =>
        Session.ofCompiled_eq_done fun l compiles => ?_
      obtain ⟨p, range, parts, isRange, _⟩ := Line.plan_eq_ok.1 compiles
      exact absurd (.line asked parts isRange) (fails _)

end Request

/-- The storage only sees requests that compile.  A request whose parts all resolve, parse and
compile keeps to its plan, whatever the storage answers: its calls go out one by one, the next
only after success, a failure or a timeout is the outcome and ends it, and there is an answer
when all calls have succeeded and all rows could be read.  If any part fails, nothing is sent
and the outcome is an error. -/
theorem storage_sees_compiled_requests [ZoneDatabase] (registry : Registry) (settings : Settings)
    (d : Sql.Dialect) (now : Instant) (r : Request) (answers : List StorageAnswer) :
    (∀ plan, r.Compiles registry settings d now plan →
      ((r.session registry settings d now).run settings.requestTimeout answers).Keeps
        settings.requestTimeout plan answers) ∧
    ((∀ plan, ¬ r.Compiles registry settings d now plan) →
      ∃ e, (r.session registry settings d now).run settings.requestTimeout answers =
        ⟨[], some (.error e)⟩) := by
  constructor
  · intro plan compiles
    exact compiles.follows.keeps settings.requestTimeout answers
  · intro fails
    obtain ⟨e, ends⟩ := r.session_eq_done fails
    exact ⟨e, by rw [ends, Session.run]⟩

namespace Sample

/-- A page of articles, in the order of the names of their authors. -/
def byAuthor (number : Nat) : ListParams where
  sort := some "-author.name"
  page := { number := some number }

/-- The storage counts two records and then is gone. -/
def goneAfterCount : List StorageAnswer :=
  [.rows [.ofList [("total", .bigInt (some 2))]], .failed "gone"]

/-- The first page is asked for after the count, and its failure is the outcome.  There is no
page of number zero, so nothing is counted. -/
theorem storage_sees_compiled_requests_of_articles :
    (∃ plan, (Request.list "article" (byAuthor 1)).Compiles registry {} .mysql ⟨0, 0⟩ plan ∧
      (((Request.list "article" (byAuthor 1)).session registry {} .mysql ⟨0, 0⟩).run none
        goneAfterCount).Keeps none plan goneAfterCount ∧
      ((Request.list "article" (byAuthor 1)).session registry {} .mysql ⟨0, 0⟩).run none
        goneAfterCount =
          ⟨plan.map Call.statement, some (.error (.storage (.reported "gone")))⟩) ∧
    ∃ e, ((Request.list "article" (byAuthor 0)).session registry {} .mysql ⟨0, 0⟩).run none
      goneAfterCount = ⟨[], some (.error e)⟩ := by
  constructor
  · have compiled : ListQuery.statements ⟨registry, article.toCollection, byAuthor 1, {}, none⟩
        .mysql ⟨0, 0⟩ = .ok _ := rfl
    obtain ⟨p, parts, made⟩ := ListQuery.statements_eq_ok.1 compiled
    have compiles : (Request.list "article" (byAuthor 1)).Compiles registry {} .mysql ⟨0, 0⟩
        (p.calls article.toCollection) := .list rfl parts
    refine ⟨_, compiles, (storage_sees_compiled_requests registry {} .mysql ⟨0, 0⟩ _
      goneAfterCount).1 _ compiles, ?_⟩
    rw [ListParts.calls, made]
    rfl
  · refine (storage_sees_compiled_requests registry {} .mysql ⟨0, 0⟩ _ goneAfterCount).2 ?_
    rintro _ ⟨asked, parts⟩
    cases asked
    cases parts.window_eq

end Sample

end Backoffice
