import RecordTables.Identifier.Quoted
import RecordTables.Failure

/-! The table that records are bound to. -/

namespace RecordTables

/-- A table, the schema it lies in, and how calls on it are made. -/
structure Table where
  name : String
  schema : Option String
  timeout : Option Nat
  advisoryLock : Bool
  deriving DecidableEq, Repr

namespace Table

/-- A table of the current schema, without a time limit and with the advisory lock. -/
def named (name : String) : Table := ⟨name, none, none, true⟩

/-- The table in a schema. -/
def withSchema (schema : String) (table : Table) : Table := { table with schema := some schema }

/-- The table with a limit in milliseconds on every call. -/
def withTimeout (milliseconds : Nat) (table : Table) : Table :=
  { table with timeout := some milliseconds }

/-- The table with the advisory lock switched on or off. -/
def withAdvisoryLock (enabled : Bool) (table : Table) : Table := { table with advisoryLock := enabled }

/-- Checks the name of the table and then that of the schema. -/
def validate (table : Table) : Except Failure Unit :=
  match Identifier.validate table.name [] with
  | .error fault => .error (.ofIdentifier fault)
  -- The schema is looked at behind the name.
  | .ok () =>
    match table.schema with
    | none => .ok ()
    | some schema => (Identifier.validate schema []).mapError .ofIdentifier

/-- A quoted name, behind the quoted name of its schema if there is one. -/
def qualify (schema : Option String) (name : String) : String :=
  match schema with
  | some schema => Identifier.quote schema ++ "." ++ Identifier.quote name
  | none => Identifier.quote name

/-- How statements refer to the table. -/
def reference (table : Table) : String := qualify table.schema table.name

end Table

end RecordTables
