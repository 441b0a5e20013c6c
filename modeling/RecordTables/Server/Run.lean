import RecordTables.Server.Repository

/-! Runs of calls on a server, from the making of a repository on. -/

namespace RecordTables

/-- A call in a run, with what happens to its statements. -/
inductive ServerCall where
  | create (table : Table) (script : Script)
  | reconcile (script : Script)
  | insert (record : Record) (reply : DataReply)
  | delete (key : String) (reply : DataReply)
  | query (request : Request) (reply : DataReply)

/-- What a call in a run comes to. -/
inductive ServerAnswer (α : Type) where
  | ready (repository : Repository)
  | report (report : Report)
  | count (rows : Nat)
  | found (items : List α)
  | failed (failure : Failure)
  | stuck
  | noRepository

/-- A server and the repository on it, if there is one. -/
structure ServerRun where
  server : Server
  repository : Option Repository

namespace ServerAnswer

/-- The answer that the outcome of a call comes to. -/
def ofOutcome {α β : Type} (answer : β → ServerAnswer α) : Outcome β → ServerAnswer α
  | .done value => answer value
  | .failed failure => .failed failure
  | .stuck => .stuck

/-- Whether no further call is made after the answer. -/
def endsRun {α : Type} : ServerAnswer α → Bool
  | .failed (.timeout _ _) => true
  | .stuck => true
  | _ => false

end ServerAnswer

namespace ServerRun

/-- Makes a repository, which is kept if the call succeeds. -/
def create {α : Type} (run : ServerRun) (table : Table) (layout : Layout) (script : Script) :
    ServerAnswer α × ServerRun :=
  match Repository.create table layout script run.server with
  | (.done repository, server) => (.ready repository, ⟨server, some repository⟩)
  -- A repository that could not be made leaves the one that was there.
  | (outcome, server) => (.ofOutcome .ready outcome, { run with server := server })

/-- Makes a call on the repository, if there is one. -/
def onRepository {α β : Type} (run : ServerRun) (answer : β → ServerAnswer α)
    (call : Repository → Session β) : ServerAnswer α × ServerRun :=
  match run.repository with
  | none => (.noRepository, run)
  | some repository =>
    let (outcome, server) := call repository run.server
    (.ofOutcome answer outcome, { run with server := server })

/-- Carries out a call. -/
def call {α : Type} (layout : Layout) (reader : RecordReader α) (run : ServerRun) :
    ServerCall → ServerAnswer α × ServerRun
  | .create table script => run.create table layout script
  | .reconcile script => run.onRepository .report fun repository => repository.reconcile script
  | .insert record reply => run.onRepository .count fun repository => repository.insert record reply
  | .delete key reply => run.onRepository .count fun repository => repository.delete key reply
  | .query request reply =>
    run.onRepository .found fun repository => repository.query reader request reply

/-- The statements logged since an earlier moment of the run. -/
def logSince (run earlier : ServerRun) : List LogEntry :=
  run.server.log.drop earlier.server.log.length

end ServerRun

end RecordTables
