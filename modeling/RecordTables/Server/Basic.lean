import RecordTables.Failure
import RecordTables.Server.Binding
import RecordTables.Statement.ColumnText
import RecordTables.Statement.Definition

/-! A database server with one table: its catalog, its log, and how a script lets statements fail. -/

namespace RecordTables

/-- What the catalog of a server knows of the table: whether it exists, and its columns with their types. -/
structure Catalog where
  tableExists : Bool
  columns : List (String × String)
  deriving DecidableEq, Repr

/-- The type that the catalog has for a column. -/
def Catalog.typeOf? (catalog : Catalog) (column : String) : Option String :=
  (catalog.columns.find? fun entry => entry.1 == column).map fun entry => entry.2

/-- A statement sent to a server. -/
inductive Command where
  | begin
  | lock (key : String)
  | tableCheck (table : String) (schema : Option String)
  | createTable (sql : String)
  | columnCheck (table : String) (schema : Option String) (column : String)
  | addColumn (column sql : String)
  | commit
  | data (sql : String) (params : List BoundValue)

/-- The places of a script where a statement can fail. -/
inductive Place where
  | begin
  | lock
  | tableCheck
  | create
  | columnCheck (column : String)
  | add (column : String)
  | commit
  deriving DecidableEq, Repr

/-- How a statement fails: with an error, or by never ending. -/
inductive Mishap where
  | error (text : String)
  | hang
  deriving DecidableEq, Repr

/-- The statements that fail, by their places. -/
abbrev Script := List (Place × Mishap)

/-- A statement as it is logged, with the values bound to it. -/
structure LogEntry where
  sql : String
  params : List BoundValue

/-- Whether the server can be reached, or what the network says instead. -/
inductive Link where
  | reachable
  | unreachable (reason : String)
  deriving DecidableEq, Repr

/-- A server: the way to it, its catalog, the catalog at the start of an open transaction, and its log. -/
structure Server where
  link : Link
  catalog : Catalog
  saved : Option Catalog
  log : List LogEntry

/-- The rows of a result and the names and types of their columns. -/
structure ResultRows where
  columns : List (String × String)
  rows : List (List Value)

/-- What a server answers to a data statement. -/
inductive DataReply where
  | error (text : String)
  | hang
  | affected (rows : Nat)
  | rows (result : ResultRows)

/-- What comes back for a statement. -/
inductive Reply where
  | done
  | truth (value : Bool)
  | type (name : Option String)
  | affected (rows : Nat)
  | rows (result : ResultRows)
  | failed (fault : StoreFault)
  | hung

namespace Command

/-- The place of a statement in a script. -/
def place? : Command → Option Place
  | .begin => some .begin
  | .lock _ => some .lock
  | .tableCheck _ _ => some .tableCheck
  | .createTable _ => some .create
  | .columnCheck _ _ column => some (.columnCheck column)
  | .addColumn column _ => some (.add column)
  | .commit => some .commit
  -- Statements about rows are not part of a reconciliation.
  | .data _ _ => none

/-- How a statement is logged. -/
def logEntry : Command → LogEntry
  | .begin => ⟨"BEGIN", []⟩
  | .lock key => ⟨Statement.advisoryLock, [.ofText? key]⟩
  | .tableCheck table schema => ⟨Statement.tableExists, [.ofText? table, .ofText? schema]⟩
  | .createTable sql => ⟨sql, []⟩
  | .columnCheck table schema column =>
    ⟨Statement.columnType, [.ofText? table, .ofText? schema, .ofText? column]⟩
  | .addColumn _ sql => ⟨sql, []⟩
  | .commit => ⟨"COMMIT", []⟩
  | .data sql params => ⟨sql, params⟩

end Command

namespace Server

/-- The names that a server has for types in its catalog, by their names in SQL. -/
def catalogTypes : List (String × String) :=
  [("BOOLEAN", "bool"), ("INTEGER", "int4"), ("JSONB", "jsonb"), ("REAL", "float4"), ("TEXT", "text"),
    ("TEXT[]", "_text"), ("TIMESTAMP WITH TIME ZONE", "timestamptz")]

/-- What the catalog will report as the type in a statement that adds a column. -/
def addedType (sql : String) : String :=
  match Statement.readAddColumn? sql with
  | some added => (catalogTypes.lookup added.storage.sqlName).getD ""
  | none => ""

/-- Carries out a statement that does not fail; the reply to a data statement is given. -/
def perform (server : Server) (reply : DataReply) : Command → Reply × Server
  -- What the catalog was is kept until the transaction ends.
  | .begin => (.done, { server with saved := some server.catalog })
  | .lock _ => (.done, server)
  | .tableCheck _ _ => (.truth server.catalog.tableExists, server)
  | .createTable _ => (.done, { server with catalog := { server.catalog with tableExists := true } })
  | .columnCheck _ _ column => (.type (server.catalog.typeOf? column), server)
  -- The type of the column is read from the text of the statement.
  | .addColumn column sql =>
    (.done, { server with catalog :=
      { server.catalog with columns := server.catalog.columns ++ [(column, addedType sql)] } })
  -- There is nothing to go back to any more.
  | .commit => (.done, { server with saved := none })
  -- Of rows only the reply is known.
  | .data _ _ =>
    match reply with
    | .error text => (.failed (.database text), server)
    | .hang => (.hung, server)
    | .affected rows => (.affected rows, server)
    | .rows result => (.rows result, server)

/-- The mishap that a script has for a statement. -/
def mishap? (script : Script) (command : Command) : Option Mishap :=
  command.place?.bind fun place => (script.find? fun entry => entry.1 == place).map fun entry => entry.2

/-- Sends a statement: it is logged if the server can be reached, and fails where the script says. -/
def send (server : Server) (script : Script) (reply : DataReply) (command : Command) : Reply × Server :=
  match server.link with
  -- A statement that never arrives leaves no entry in the log.
  | .unreachable reason => (.failed (.connection reason), server)
  | .reachable =>
    let logged := { server with log := server.log ++ [command.logEntry] }
    match mishap? script command with
    | some (.error text) => (.failed (.database text), logged)
    | some .hang => (.hung, logged)
    | none => logged.perform reply command

/-- Gives up an open transaction: the catalog is again what it was at its start. -/
def rollback (server : Server) : Server :=
  match server.saved with
  | some catalog => { server with catalog := catalog, saved := none }
  | none => server

/-- A server with a catalog and an empty log. -/
def start (link : Link) (catalog : Catalog) : Server := ⟨link, catalog, none, []⟩

end Server

end RecordTables
