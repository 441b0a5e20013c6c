import RecordTables.Column.Layout
import RecordTables.Table

/-! The statements that look up and extend the definition of a table. -/

namespace RecordTables

namespace Statement

/-- Asks whether a table exists: its name comes first, then its schema or null for the current one. -/
def tableExists : String :=
  "SELECT EXISTS (SELECT 1 FROM information_schema.tables " ++
    "WHERE table_schema = COALESCE($2, current_schema()) AND table_name = $1)"

/-- Asks for the type of a column: table, schema or null, and column. -/
def columnType : String :=
  "SELECT udt_name::text FROM information_schema.columns " ++
    "WHERE table_schema = COALESCE($2, current_schema()) AND table_name = $1 AND column_name = $3"

/-- Waits for the lock that goes with a table reference, and holds it to the end of the transaction. -/
def advisoryLock : String := "SELECT pg_advisory_xact_lock(hashtext($1))"

/-- Creates a table without columns. -/
def createTable (table : Table) : String := "CREATE TABLE " ++ table.reference ++ " ()"

/-- The definition of a column: its name, its type and its constraints. -/
def columnDefinition (column : Column) (storage : StorageType) : String :=
  Identifier.quote column.name ++ " " ++ storage.sqlName ++ column.constraints.sql

/-- Adds a column to a table. -/
def addColumn (table : Table) (column : Column) (storage : StorageType) : String :=
  "ALTER TABLE " ++ table.reference ++ " ADD COLUMN " ++ columnDefinition column storage

end Statement

end RecordTables
