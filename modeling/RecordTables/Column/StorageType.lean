import RecordTables.Column.Shape

/-! The column types of a table and the shapes that each of them stores. -/

namespace RecordTables

/-- The types of the columns that tables are given. -/
inductive StorageType where
  | text
  | integer
  | real
  | boolean
  | timestamp
  | document
  | textList
  deriving DecidableEq, Repr

namespace StorageType

/-- Every column type. -/
def all : List StorageType :=
  [.text, .integer, .real, .boolean, .timestamp, .document, .textList]

/-- The name of the type in SQL. -/
def sqlName : StorageType → String
  | .text => "TEXT"
  | .integer => "INTEGER"
  | .real => "REAL"
  | .boolean => "BOOLEAN"
  | .timestamp => "TIMESTAMP WITH TIME ZONE"
  | .document => "JSONB"
  | .textList => "TEXT[]"

/-- The name that the catalog reports for a column created with the type. -/
def catalogName : StorageType → String
  | .text => "text"
  | .integer => "int4"
  | .real => "float4"
  | .boolean => "bool"
  | .timestamp => "timestamptz"
  | .document => "jsonb"
  | .textList => "_text"

/-- The name of the type in JSON. -/
def jsonName : StorageType → String
  | .text => "text"
  | .integer => "integer"
  | .real => "real"
  | .boolean => "boolean"
  | .timestamp => "timestamptz"
  | .document => "jsonb"
  | .textList => "textarray"

/-- The type with a given name in JSON. -/
def ofJsonName? (name : String) : Option StorageType := all.find? fun type => type.jsonName = name

/-- The column type that stores a shape, absent when none does. -/
def ofShape? : Shape → Option StorageType
  | .text => some .text
  -- All widths share one type of column.
  | .signed _ => some .integer
  | .floating _ => some .real
  | .boolean => some .boolean
  | .timestamp => some .timestamp
  | .mapping .text .anything => some .document
  | .sequence .text => some .textList
  -- Unsigned numbers, bytes and free documents have no column.
  | _ => none

end StorageType

end RecordTables
