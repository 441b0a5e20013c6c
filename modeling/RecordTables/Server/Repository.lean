import RecordTables.Server.Reconciliation
import RecordTables.Server.ResultRow
import RecordTables.Statement.Data

/-! Tables of records on a server: making them ready, and inserting, deleting and querying. -/

namespace RecordTables

/-- A table on a server that has been made ready, and the report of that. -/
structure Repository where
  table : Table
  columns : List Column
  report : Report

namespace Repository

open Session

/-- The columns of a layout, once the table's names and the types of the columns are found good. -/
def prepare (table : Table) (layout : Layout) : Except Failure (List Column) :=
  match table.validate with
  | .error failure => .error failure
  | .ok () =>
    match layout.columns with
    | .error failure => .error failure
    | .ok columns => (Column.storages columns).map fun _ => columns

/-- Makes a table ready for a layout. -/
def create (table : Table) (layout : Layout) (script : Script) : Session Repository :=
  (ofExcept (prepare table layout)).andThen fun columns =>
    (Reconciliation.run ⟨script, .affected 0, table⟩ columns).andThen fun report =>
      result ⟨table, columns, report⟩

/-- Reconciles the table once more. -/
def reconcile (repository : Repository) (script : Script) : Session Report :=
  Reconciliation.run ⟨script, .affected 0, repository.table⟩ repository.columns

/-- Sends a data statement and gives back the reply. -/
def sendData (repository : Repository) (operation : String) (failure : StoreFault → Failure)
    (reply : DataReply) (sql : String) (params : List BoundValue) : Session Reply :=
  send ⟨[], reply, repository.table⟩ operation failure (.data sql params)

/-- The number of rows that a reply reports as changed. -/
def affectedRows : Reply → Nat
  | .affected rows => rows
  | _ => 0

/-- The rows that a reply holds. -/
def resultRows : Reply → List ResultRow
  | .rows result => result.rows.map fun cells => ⟨result.columns, cells⟩
  | _ => []

/-- Inserts a record and counts it; a record in conflict with a row is passed over. -/
def insert (repository : Repository) (record : Record) (reply : DataReply) : Session Nat :=
  (ofExcept (Statement.insert repository.table.reference repository.columns record)).andThen
    -- A record that cannot be bound is refused before anything is sent.
    fun insertion =>
      (repository.sendData "insert" (.insertion repository.table.name) reply insertion.sql
          (insertion.params.map fun param => .ofValue (some param.storage) param.value)).andThen
        fun answer => result (affectedRows answer)

/-- Deletes the rows with a key and counts them. -/
def delete (repository : Repository) (key : String) (reply : DataReply) : Session Nat :=
  (repository.sendData "delete" (.deletion repository.table.name key) reply
      (Statement.delete repository.table.reference (Column.keyName repository.columns))
      [.ofText? key]).andThen fun answer => result (affectedRows answer)

/-- Reads the rows that a request selects, up to the first that cannot be read. -/
def query {α : Type} (repository : Repository) (reader : RecordReader α) (request : Request)
    (reply : DataReply) : Session (List α) :=
  (ofExcept (Statement.select repository.table.reference repository.columns request)).andThen
    -- A filter that cannot be compiled is refused before anything is sent.
    fun bound =>
      (repository.sendData "query" (.queryExecution repository.table.name bound.sql) reply bound.sql
          (bound.params.map fun value => .ofValue none value)).andThen fun answer =>
        ofExcept ((resultRows answer).mapM
          (ResultRow.read repository.table.name repository.columns reader))

end Repository

end RecordTables
