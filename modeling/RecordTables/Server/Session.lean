import RecordTables.Server.Basic
import RecordTables.Table

/-! Calls on a server: each statement is sent under the table's time limit. -/

namespace RecordTables

/-- How a call ends: with a result, with a failure, or not at all. -/
inductive Outcome (α : Type) where
  | done (value : α)
  | failed (failure : Failure)
  | stuck

/-- A call that leaves a server behind. -/
abbrev Session (α : Type) := Server → Outcome α × Server

namespace Session

/-- A call that has its result without any statement. -/
def result {α : Type} (value : α) : Session α := fun server => (.done value, server)

/-- A call that fails without any statement. -/
def fail {α : Type} (failure : Failure) : Session α := fun server => (.failed failure, server)

/-- A call after another; it is not made when the first one has no result. -/
def andThen {α β : Type} (first : Session α) (second : α → Session β) : Session β := fun server =>
  match first server with
  | (.done value, after) => second value after
  -- The second call is not made, and the server is as the first one left it.
  | (.failed failure, after) => (.failed failure, after)
  | (.stuck, after) => (.stuck, after)

/-- A result that is known, or a failure that is. -/
def ofExcept {α : Type} : Except Failure α → Session α
  | .ok value => result value
  | .error failure => fail failure

/-- What may go wrong with statements, and the limit on each of them. -/
structure Conditions where
  script : Script
  reply : DataReply
  table : Table

/--
Sends a statement. An error becomes the failure given for it; a statement that never ends becomes a
timeout when there is a time limit, and else the call never ends.
-/
def send (conditions : Conditions) (operation : String) (failure : StoreFault → Failure)
    (command : Command) : Session Reply := fun server =>
  match server.send conditions.script conditions.reply command with
  | (.failed fault, after) => (.failed (failure fault), after)
  | (.hung, after) =>
    -- Without a time limit nothing ends a statement that hangs.
    if conditions.table.timeout.isSome then
      (.failed (.timeout operation conditions.table.name), after)
    else (.stuck, after)
  | (reply, after) => (.done reply, after)

/-- Gives up the transaction that a call leaves open, whatever the call has come to. -/
def rollbackOpen {α : Type} (call : Session α) : Session α := fun server =>
  match call server with
  | (outcome, after) => (outcome, after.rollback)

end Session

end RecordTables
