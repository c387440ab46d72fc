import Backoffice.Sql.Select
import Backoffice.Storage.Row

/-!
# Sessions with the storage

A `Session` is what a request does with the storage: it ends with an outcome, or
it sends a statement and goes on with the rows that come back or with the error
that took their place.  The storage answers a statement with rows, tells of a
failure, or stays silent; `Session.run` plays a session against given answers and
records the statements sent.

A deadline turns silence into a timeout.  Without one a silent storage leaves the
session without an outcome.
-/

namespace Backoffice

/-- What a request does with the storage. -/
inductive Session (α : Type) where
  /-- The request ends. -/
  | done (outcome : Except Error α)
  /-- A statement is sent, and the session goes on with what comes of it. -/
  | ask (statement : Sql.Select) (resume : Except Error (List Row) → Session α)

/-- What the storage makes of a statement. -/
inductive StorageAnswer where
  /-- The rows of the answer. -/
  | rows (found : List Row)
  /-- A failure, in the words of the storage. -/
  | failed (message : String)
  /-- No answer at all. -/
  | silent

/-- What a session sees of an answer under a deadline in milliseconds. -/
def StorageAnswer.seen (deadline : Option Nat) : StorageAnswer → Option (Except Error (List Row))
  | rows found => some (.ok found)
  | failed message => some (.error (.storage (.reported message)))
  | silent => deadline.map fun millis => .error (.timeout (millis * 1000))

/-- What a session sent and how it ended. -/
structure Transcript (α : Type) where
  /-- The statements, in the order in which they were sent. -/
  statements : List Sql.Select
  /-- The outcome, unless the session still waits. -/
  outcome : Option (Except Error α)

namespace Session

variable {α : Type}

/-- The session that sends a statement and ends with what a function makes of the
rows. -/
def query (statement : Sql.Select) (finish : List Row → Except Error α) : Session α :=
  .ask statement fun
    | .error e => .done (.error e)
    | .ok rows => .done (finish rows)

/-- A session whose statements may fail to compile.  Then nothing is sent. -/
def ofCompiled {β : Type} (compiled : Except Error β) (session : β → Session α) : Session α :=
  match compiled with
  | .error e => .done (.error e)
  | .ok value => session value

/-- A session played against the answers of the storage.  Where the answers end,
the storage gives no rows. -/
def run (deadline : Option Nat) (answers : List StorageAnswer) (session : Session α) :
    Transcript α :=
  match session, answers with
  | .done outcome, _ => ⟨[], some outcome⟩
  | .ask statement resume, answers =>
      match (answers.headD (.rows [])).seen deadline with
      | none => ⟨[statement], none⟩
      | some seen =>
          let rest := run deadline answers.tail (resume seen)
          ⟨statement :: rest.statements, rest.outcome⟩

end Session

end Backoffice
