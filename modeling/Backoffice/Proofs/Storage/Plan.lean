import Backoffice.Storage.Session
import Mathlib.Data.List.Infix

/-!
# Plans

A plan is a list of calls to the storage.  A session that follows a plan makes the calls in
turn and then ends with an answer, and a fault in place of the rows, or in the rows, ends it
at once.

Its runs keep to the plan whatever the storage does (`Session.Follows.keeps`).  A call goes
out when all calls before it have succeeded, the first one that does not is the last, and no
call is made twice.
-/

namespace Backoffice

open Sql (Select)

/-- A call to the storage. -/
structure Call where
  /-- The statement to send. -/
  statement : Select
  /-- The rows that can be read as an answer. -/
  Reads : List Row → Prop
  /-- Rows on which the request stops.  Most calls have none. -/
  Stops : List Row → Prop := fun _ => False

namespace Call

/-- A call succeeds with rows that can be read.  What the storage cannot read itself it tells
of as a failure. -/
def Succeeds (c : Call) (answer : StorageAnswer) : Prop :=
  ∃ rows, answer = .rows rows ∧ c.Reads rows

/-- How a session ends with a call that does not succeed. -/
inductive Ends {α : Type} (deadline : Option Nat) (c : Call) :
    StorageAnswer → Option (Except Error α) → Prop where
  /-- The failure is the outcome. -/
  | failed (message : String) :
      Ends deadline c (.failed message) (some (.error (.storage (.reported message))))
  /-- The deadline is told in microseconds. -/
  | timedOut {millis : Nat} (limited : deadline = some millis) :
      Ends deadline c .silent (some (.error (.timeout (millis * 1000))))
  /-- Without a deadline the session waits. -/
  | waits (unlimited : deadline = none) : Ends deadline c .silent none
  /-- A row cannot be read. -/
  | unreadable {rows : List Row} (unread : ¬ c.Reads rows) (column : String) :
      Ends deadline c (.rows rows) (some (.error (.storage (.unreadable column))))
  /-- The request stops on a row. -/
  | stopped {rows : List Row} (unread : ¬ c.Reads rows) (stops : c.Stops rows) :
      Ends deadline c (.rows rows) (some (.error .stopped))

end Call

/-- The answer to the call at a position.  Where the answers end, the storage gives no rows. -/
def StorageAnswer.at (answers : List StorageAnswer) (i : Nat) : StorageAnswer :=
  answers.getD i (.rows [])

/-- The call at a position of a plan succeeds. -/
def SucceedsAt (plan : List Call) (answers : List StorageAnswer) (i : Nat) : Prop :=
  ∃ c ∈ plan[i]?, c.Succeeds (.at answers i)

/-- That a session went by a plan. -/
structure Transcript.Keeps {α : Type} (t : Transcript α) (deadline : Option Nat) (plan : List Call)
    (answers : List StorageAnswer) : Prop where
  /-- The statements are those of the plan, in its order and none twice. -/
  planned : t.statements <+: plan.map Call.statement
  /-- A call goes out when all calls before it have succeeded. -/
  sent_iff : ∀ i < plan.length, i < t.statements.length ↔ ∀ j < i, SucceedsAt plan answers j
  /-- A call that does not succeed is the last one, and ends the session. -/
  ends : ∀ i < t.statements.length, ∀ c ∈ plan[i]?, ¬ c.Succeeds (.at answers i) →
    t.statements.length = i + 1 ∧ c.Ends deadline (.at answers i) t.outcome
  /-- There is an answer when every call of the plan has succeeded. -/
  answered_iff : (∃ value, t.outcome = some (.ok value)) ↔
    ∀ i < plan.length, SucceedsAt plan answers i

/-! ## Runs -/

section
variable {α : Type} {deadline : Option Nat} {c : Call} {plan : List Call}
variable {answers : List StorageAnswer}

theorem StorageAnswer.at_zero : StorageAnswer.at answers 0 = answers.headD (.rows []) := by
  cases answers with
  | nil => rfl
  | cons answer rest => rfl

theorem StorageAnswer.at_succ (i : Nat) :
    StorageAnswer.at answers (i + 1) = StorageAnswer.at answers.tail i := by
  cases answers with
  | nil => rfl
  | cons answer rest => rfl

theorem succeedsAt_zero : SucceedsAt (c :: plan) answers 0 ↔ c.Succeeds (.at answers 0) := by
  simp [SucceedsAt]

theorem succeedsAt_succ (i : Nat) :
    SucceedsAt (c :: plan) answers (i + 1) ↔ SucceedsAt plan answers.tail i := by
  simp [SucceedsAt, StorageAnswer.at_succ]

theorem Call.Ends.not_answered {answer : StorageAnswer} {outcome : Option (Except Error α)}
    (ends : c.Ends deadline answer outcome) (value : α) : outcome ≠ some (.ok value) := by
  cases ends with
  | failed | timedOut | waits | unreadable | stopped => simp

/-- A call that does not succeed ends a session. -/
theorem Transcript.keeps_of_ends {outcome : Option (Except Error α)}
    (fails : ¬ c.Succeeds (.at answers 0)) (ends : c.Ends deadline (.at answers 0) outcome) :
    Transcript.Keeps ⟨[c.statement], outcome⟩ deadline (c :: plan) answers where
  planned := List.prefix_append [c.statement] _
  sent_iff i _ := by
    cases i with
    | zero => simp
    | succ i =>
        refine ⟨fun sent => absurd sent (by simp), fun succeed => ?_⟩
        exact absurd (succeedsAt_zero.1 (succeed 0 i.succ_pos)) fails
  ends i sent c' isCall _ := by
    obtain rfl : i = 0 := Nat.lt_one_iff.1 sent
    obtain rfl : c = c' := by simpa using isCall
    exact ⟨rfl, ends⟩
  answered_iff := by
    constructor
    · rintro ⟨value, answered⟩
      exact absurd answered (ends.not_answered value)
    · intro succeed
      exact absurd (succeedsAt_zero.1 (succeed 0 (Nat.succ_pos _))) fails

/-- After a call that succeeds a session goes on with the rest of the plan. -/
theorem Transcript.Keeps.cons {t : Transcript α} (succeeds : c.Succeeds (.at answers 0))
    (keeps : t.Keeps deadline plan answers.tail) :
    Transcript.Keeps ⟨c.statement :: t.statements, t.outcome⟩ deadline (c :: plan) answers where
  planned := List.cons_prefix_cons.2 ⟨rfl, keeps.planned⟩
  sent_iff i inPlan := by
    cases i with
    | zero => simp
    | succ i =>
        rw [List.length_cons, Nat.succ_lt_succ_iff,
          keeps.sent_iff i (Nat.lt_of_succ_lt_succ inPlan)]
        constructor
        · intro succeed j before
          cases j with
          | zero => exact succeedsAt_zero.2 succeeds
          | succ j => exact (succeedsAt_succ j).2 (succeed j (Nat.lt_of_succ_lt_succ before))
        · intro succeed j before
          exact (succeedsAt_succ j).1 (succeed (j + 1) (Nat.succ_lt_succ before))
  ends i sent c' isCall fails := by
    cases i with
    | zero =>
        obtain rfl : c = c' := by simpa using isCall
        exact absurd succeeds fails
    | succ i =>
        rw [StorageAnswer.at_succ] at fails ⊢
        obtain ⟨isLast, ends⟩ := keeps.ends i (Nat.lt_of_succ_lt_succ sent) c' isCall fails
        exact ⟨congrArg Nat.succ isLast, ends⟩
  answered_iff := by
    rw [keeps.answered_iff]
    constructor
    · intro succeed i inPlan
      cases i with
      | zero => exact succeedsAt_zero.2 succeeds
      | succ i => exact (succeedsAt_succ i).2 (succeed i (Nat.lt_of_succ_lt_succ inPlan))
    · intro succeed i inPlan
      exact (succeedsAt_succ i).1 (succeed (i + 1) (Nat.succ_lt_succ inPlan))

end

namespace Session

variable {α : Type}

/-- That a session makes the calls of a plan and then ends with an answer. -/
inductive Follows : List Call → Session α → Prop where
  | done (value : α) : Follows [] (.done (.ok value))
  | ask {c : Call} {plan : List Call} {resume : Except Error (List Row) → Session α}
      (failed : ∀ e, resume (.error e) = .done (.error e))
      (unread : ∀ rows, ¬ c.Reads rows →
        (∃ column, resume (.ok rows) = .done (.error (.storage (.unreadable column)))) ∨
          c.Stops rows ∧ resume (.ok rows) = .done (.error .stopped))
      (read : ∀ rows, c.Reads rows → Follows plan (resume (.ok rows))) :
      Follows (c :: plan) (.ask c.statement resume)

/-- A session that follows a plan keeps to it, whatever the storage answers. -/
theorem Follows.keeps {plan : List Call} {session : Session α} (follows : Follows plan session)
    (deadline : Option Nat) (answers : List StorageAnswer) :
    (session.run deadline answers).Keeps deadline plan answers := by
  induction follows generalizing answers with
  | done value =>
      exact ⟨List.prefix_rfl, by simp, by simp [run], by simp [run]⟩
  | @ask c plan resume failed unread _ ih =>
      rw [run, ← StorageAnswer.at_zero]
      cases answer : StorageAnswer.at answers 0 with
      | failed message =>
          have fails : ¬ c.Succeeds (.at answers 0) := by simp [answer, Call.Succeeds]
          simp only [StorageAnswer.seen, failed, run]
          exact Transcript.keeps_of_ends fails (answer ▸ .failed message)
      | silent =>
          have fails : ¬ c.Succeeds (.at answers 0) := by simp [answer, Call.Succeeds]
          cases deadline with
          | none =>
              exact Transcript.keeps_of_ends fails (answer ▸ .waits rfl)
          | some millis =>
              simp only [StorageAnswer.seen, Option.map_some, failed, run]
              exact Transcript.keeps_of_ends fails (answer ▸ .timedOut rfl)
      | rows found =>
          by_cases reads : c.Reads found
          · exact (ih found reads answers.tail).cons ⟨found, answer, reads⟩
          · have fails : ¬ c.Succeeds (.at answers 0) := by simp [answer, Call.Succeeds, reads]
            rcases unread found reads with ⟨column, ends⟩ | ⟨stops, ends⟩
            · simp only [StorageAnswer.seen, ends, run]
              exact Transcript.keeps_of_ends fails (answer ▸ .unreadable reads column)
            · simp only [StorageAnswer.seen, ends, run]
              exact Transcript.keeps_of_ends fails (answer ▸ .stopped reads stops)

/-- A session that ends with an error whatever has been compiled ends with an error. -/
theorem ofCompiled_eq_done {β : Type} {compiled : Except Error β} {session : β → Session α}
    (ends : ∀ value, compiled = .ok value → ∃ e, session value = .done (.error e)) :
    ∃ e, ofCompiled compiled session = .done (.error e) := by
  cases compiled with
  | error e => exact ⟨e, rfl⟩
  | ok value => exact ends value rfl

theorem follows_query {statement : Select} {finish : List Row → Except Error α}
    {Reads Stops : List Row → Prop}
    (reads_iff : ∀ rows, Reads rows ↔ ∃ value, finish rows = .ok value)
    (fails : ∀ rows e, finish rows = .error e →
      (∃ column, e = .storage (.unreadable column)) ∨ Stops rows ∧ e = .stopped) :
    Follows [⟨statement, Reads, Stops⟩] (.query statement finish) := by
  refine .ask (fun e => rfl) (fun rows unread => ?_) fun rows reads => ?_
  · cases finished : finish rows with
    | ok value => exact absurd ((reads_iff rows).2 ⟨value, finished⟩) unread
    | error e =>
        rcases fails rows e finished with ⟨column, rfl⟩ | ⟨stops, rfl⟩
        · exact .inl ⟨column, congrArg done finished⟩
        · exact .inr ⟨stops, congrArg done finished⟩
  · obtain ⟨value, finished⟩ := (reads_iff rows).1 reads
    show Follows [] (.done (finish rows))
    rw [finished]
    exact .done value

end Session

end Backoffice
