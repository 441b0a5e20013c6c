import RecordTables.Entity
import RecordTables.Server.Basic

/-!
Rows of a result: columns are found by name and decoded by the type that is declared for them. Decoding is the
driver's: which catalog types it takes for a column type, and what it makes of their content, is written out
here for the types that columns are made with and those that go with them.
-/

namespace RecordTables

/-- One row of a result. -/
structure ResultRow where
  columns : List (String × String)
  cells : List Value

/-- Why a column of a result cannot be decoded. -/
inductive ColumnFault where
  | absent (column : String)
  | mismatched (column : String)
  deriving DecidableEq, Repr

/-- What is said about a column that cannot be decoded. -/
def ColumnFault.message : ColumnFault → String
  | .absent column => "no column found for name: " ++ column
  | .mismatched column =>
    "error occurred while decoding column \"" ++ column ++ "\": mismatched types"

/-- The catalog types that a column type is decoded from. -/
def StorageType.acceptedTypes : StorageType → List String
  | .text => ["text", "varchar", "name"]
  | .integer => ["int4"]
  | .real => ["float4"]
  | .boolean => ["bool"]
  | .timestamp => ["timestamptz"]
  | .document => ["jsonb", "json"]
  | .textList => ["_text", "_varchar"]

namespace Timestamp

/-- The instant without what lies beyond its microseconds. -/
def toMicros (timestamp : Timestamp) : Option Timestamp :=
  let micros := timestamp.microsSince2000
  ofParts? (946684800 + micros / 1000000) ((micros % 1000000).toNat * 1000)

end Timestamp

namespace ResultRow

/-- The type and the value of a column; the last of several with one name counts. -/
def cell? (row : ResultRow) (column : String) : Option (String × Value) :=
  ((List.zip row.columns row.cells).reverse.find? fun entry => entry.1.1 == column).map
    fun entry => (entry.1.2, entry.2)

/-- The value that a column of a type holds for a value sent: narrowed to what the type can hold. -/
def decodeContent? : StorageType → Value → Option Value
  | .text, .text value => some (.text value)
  -- Integers come in 32 bits, and one that does not fit is not decoded.
  | .integer, .integer value => (Signed.ofInt? 32 value.value).map fun narrow => .integer (narrow.widen (by decide))
  -- Reals come in single precision, so that a double is rounded on its way.
  | .real, .real value => some (.real (Double.ofSingle (Double.toSingle value)))
  | .boolean, .boolean value => some (.boolean value)
  | .timestamp, .timestamp value => value.toMicros.map .timestamp
  | .document, .document value => some (.document value)
  | .textList, .textList items => some (.textList items)
  | _, _ => none

/-- Decodes a column by name; null is null whatever the column's type. -/
def decode (row : ResultRow) (column : String) (storage : StorageType) : Except ColumnFault Value :=
  match row.cell? column with
  | none => .error (.absent column)
  -- Null carries no content, so the type of its column is not looked at.
  | some (_, .null) => .ok .null
  | some (type, value) =>
    if storage.acceptedTypes.contains type then
      match decodeContent? storage value with
      | some decoded => .ok decoded
      | none => .error (.mismatched column)
    else .error (.mismatched column)

/-- Decodes columns in order into a record, up to the first that cannot be. -/
def fill (table : String) (row : ResultRow) (record : Record) : List Column → Except Failure Record
  | [] => .ok record
  | column :: rest =>
    match column.storage with
    | .error failure => .error failure
    | .ok storage =>
      match row.decode column.name storage with
      -- The failure names the column of the result, not the field that it is for.
      | .error fault => .error (.rowScan table column.name fault.message)
      | .ok value => fill table row (record.insert column.field value) rest

/-- The record of a row. -/
def toRecord (table : String) (columns : List Column) (row : ResultRow) : Except Failure Record :=
  fill table row Dictionary.empty columns

/-- Reads an entity from a row. -/
def read {α : Type} (table : String) (columns : List Column) (reader : RecordReader α)
    (row : ResultRow) : Except Failure α :=
  match toRecord table columns row with
  | .error failure => .error failure
  -- The reader does not know of the table, whose name is set in its failure.
  | .ok record => (reader record).1.mapError (Failure.withTable table)

end ResultRow

end RecordTables
