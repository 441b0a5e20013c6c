import RecordTables.Identifier.Validation

/-! Everything that can go wrong with a table of records, and what is said about it. -/

namespace RecordTables

/-- What a database server or the way to it reports. -/
inductive StoreFault where
  | rowNotFound
  | poolTimedOut
  | poolClosed
  | protocol (detail : String)
  | database (detail : String)
  | connection (detail : String)
  deriving DecidableEq, Repr

/-- The text of a report. -/
def StoreFault.message : StoreFault → String
  | .rowNotFound => "no rows returned by a query that expected to return at least one row"
  | .poolTimedOut => "pool timed out while waiting for an open connection"
  | .poolClosed => "attempted to acquire a connection on a closed pool"
  | .protocol detail => "encountered unexpected or invalid data: " ++ detail
  | .database detail => "error returned from database: " ++ detail
  | .connection detail => "error communicating with database: " ++ detail

/-- Why an operation on a table of records failed. -/
inductive Failure where
  | tableCheck (table : String) (source : StoreFault)
  | tableCreation (table : String) (source : StoreFault)
  | columnCheck (table column : String) (source : StoreFault)
  | columnAddition (table column : String) (source : StoreFault)
  | unsupportedType (field type : String)
  | missingTag (field : String)
  | duplicateColumn (column : String)
  | missingValue (field : String)
  | invalidIdentifier (reason : String)
  | invalidFilter (field reason : String)
  | unknownColumn (table column : String)
  | nullViolation (table column : String)
  | insertion (table : String) (source : StoreFault)
  | deletion (table id : String) (source : StoreFault)
  | queryExecution (table sql : String) (source : StoreFault)
  | rowScan (table column reason : String)
  | migration (table : String) (source : StoreFault)
  | timeout (operation table : String)
  deriving DecidableEq, Repr

namespace Failure

/-- What is said about a failure. -/
def message : Failure → String
  | .tableCheck table source =>
    "Failed to check whether table '" ++ table ++ "' exists: " ++ source.message
  | .tableCreation table source => "Failed to create table '" ++ table ++ "': " ++ source.message
  | .columnCheck table column source =>
    "Failed to check column '" ++ column ++ "' on table '" ++ table ++ "': " ++ source.message
  | .columnAddition table column source =>
    "Failed to add column '" ++ column ++ "' to table '" ++ table ++ "': " ++ source.message
  | .unsupportedType field type => "Unsupported type for field '" ++ field ++ "': " ++ type
  | .missingTag field => "Field '" ++ field ++ "' has no column tag"
  | .duplicateColumn column => "Column '" ++ column ++ "' is declared by more than one field"
  | .missingValue field => "Field '" ++ field ++ "' was not written by the entity"
  | .invalidIdentifier reason => "Invalid identifier: " ++ reason
  | .invalidFilter field reason => "Invalid filter on '" ++ field ++ "': " ++ reason
  | .unknownColumn table column => "Unknown column '" ++ column ++ "' on table '" ++ table ++ "'"
  | .nullViolation table column =>
    "Column '" ++ column ++ "' on table '" ++ table ++ "' cannot be NULL"
  | .insertion table source =>
    "Failed to insert entity into table '" ++ table ++ "': " ++ source.message
  | .deletion table id source =>
    "Failed to delete entity '" ++ id ++ "' from table '" ++ table ++ "': " ++ source.message
  | .queryExecution table sql source =>
    "Failed to execute query on table '" ++ table ++ "' (" ++ sql ++ "): " ++ source.message
  | .rowScan table column reason =>
    "Failed to scan column '" ++ column ++ "' from table '" ++ table ++ "': " ++ reason
  | .migration table source =>
    "Schema migration of table '" ++ table ++ "' failed: " ++ source.message
  | .timeout operation table => operation ++ " on table '" ++ table ++ "' timed out"

/-- The report of the store behind a failure, if there is one. -/
def source? : Failure → Option StoreFault
  | .tableCheck _ source => some source
  | .tableCreation _ source => some source
  | .columnCheck _ _ source => some source
  | .columnAddition _ _ source => some source
  | .insertion _ source => some source
  | .deletion _ _ source => some source
  | .queryExecution _ _ source => some source
  | .migration _ source => some source
  | _ => none

/-- Whether the store failed, and not the description of a record or a request. -/
def isStoreFailure (failure : Failure) : Bool := failure.source?.isSome

/-- Names the table in a failure that was raised without knowing it. -/
def withTable (name : String) : Failure → Failure
  | .rowScan table column reason =>
    if table = "" then .rowScan name column reason else .rowScan table column reason
  | other => other

/-- A refused name as a failure. -/
def ofIdentifier (fault : Identifier.Fault) : Failure := .invalidIdentifier fault.message

end Failure

end RecordTables
