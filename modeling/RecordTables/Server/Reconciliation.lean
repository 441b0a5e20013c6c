import RecordTables.Server.Session

/-!
Reconciliation: a table is created if it is missing, and columns that are missing are added.
What is there already is left alone; a column of another type is only reported.
-/

namespace RecordTables

/-- A column whose type in the catalog is not the one declared. -/
structure Drift where
  column : String
  expected : StorageType
  actual : String
  deriving DecidableEq, Repr

/-- What a reconciliation has done. -/
structure Report where
  tableCreated : Bool
  added : List String
  drifted : List Drift
  statements : List String
  deriving DecidableEq, Repr

namespace Report

/-- Nothing done and nothing found. -/
def empty : Report := ⟨false, [], [], []⟩

/-- Whether no statement changed anything. -/
def isNoop (report : Report) : Bool := report.statements.isEmpty

/-- The report with the creation of the table. -/
def create (report : Report) (sql : String) : Report :=
  { report with tableCreated := true, statements := report.statements ++ [sql] }

/-- The report with one more column added. -/
def add (report : Report) (column sql : String) : Report :=
  { report with added := report.added ++ [column], statements := report.statements ++ [sql] }

/-- The report with one more column of another type. -/
def drift (report : Report) (drift : Drift) : Report :=
  { report with drifted := report.drifted ++ [drift] }

/-- The members that spell a drifted column. -/
def driftJson (drift : Drift) : Json :=
  .object [("column", .string drift.column), ("expected", .string drift.expected.jsonName),
    ("actual", .string drift.actual)]

/-- The members that spell a report. -/
def toJson (report : Report) : Json :=
  .object [("table_created", .boolean report.tableCreated),
    ("added_columns", .array (report.added.map .string)),
    ("drifted_columns", .array (report.drifted.map driftJson)),
    ("ddl", .array (report.statements.map .string))]

end Report

namespace Reconciliation

open Session

/-- Begins the transaction, and takes the advisory lock if the table asks for it. -/
def begin (conditions : Conditions) : Session Unit :=
  let table := conditions.table
  (send conditions "begin reconciliation" (.migration table.name) .begin).andThen fun _ =>
    -- The lock is held until the transaction ends.
    if table.advisoryLock then
      (send conditions "advisory lock" (.migration table.name) (.lock table.reference)).andThen
        fun _ => result ()
    else result ()

/-- Creates the table if the catalog does not have it. -/
def ensureTable (conditions : Conditions) (report : Report) : Session Report :=
  let table := conditions.table
  (send conditions "table check" (.tableCheck table.name)
      (.tableCheck table.name table.schema)).andThen fun reply =>
    match reply with
    | .truth true => result report
    | _ =>
      -- Anything but a plain yes is taken for a missing table.
      let sql := Statement.createTable table
      (send conditions "create table" (.tableCreation table.name) (.createTable sql)).andThen
        fun _ => result (report.create sql)

/-- Adds a column if the catalog does not have it, and reports one of another type. -/
def ensureColumn (conditions : Conditions) (report : Report) (column : Column) : Session Report :=
  let table := conditions.table
  (ofExcept column.storage).andThen fun storage =>
    (send conditions "column check" (.columnCheck table.name column.name)
        (.columnCheck table.name table.schema column.name)).andThen fun reply =>
      match reply with
      | .type (some actual) =>
        -- A column with another type is reported and left as it is.
        if actual = storage.catalogName then result report
        else result (report.drift ⟨column.name, storage, actual⟩)
      | _ =>
        -- A column is added without touching those that are there.
        let sql := Statement.addColumn table column storage
        (send conditions "add column" (.columnAddition table.name column.name)
            (.addColumn column.name sql)).andThen fun _ => result (report.add column.name sql)

/-- Goes through the columns in order. -/
def ensureColumns (conditions : Conditions) (report : Report) : List Column → Session Report
  | [] => result report
  | column :: rest =>
    (ensureColumn conditions report column).andThen fun next => ensureColumns conditions next rest

/-- Commits the transaction. -/
def commit (conditions : Conditions) (report : Report) : Session Report :=
  (send conditions "commit reconciliation" (.migration conditions.table.name) .commit).andThen
    fun _ => result report

/-- Brings the table up to date in one transaction, which is given up unless it is committed. -/
def run (conditions : Conditions) (columns : List Column) : Session Report :=
  rollbackOpen <|
    -- However the parts end, no transaction is left open.
    (begin conditions).andThen fun _ =>
      (ensureTable conditions .empty).andThen fun report =>
        (ensureColumns conditions report columns).andThen (commit conditions)

end Reconciliation

end RecordTables
