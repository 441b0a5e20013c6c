import RecordTables.Identifier.Quoted
import RecordTables.Column.Constraint
import RecordTables.Column.StorageType

/-! Reading the statement that adds a column back from its text. -/

namespace RecordTables

namespace Statement

/-- What a statement that adds a column says. -/
structure AddedColumn where
  schema : Option String
  table : String
  name : String
  storage : StorageType
  constraints : Constraints
  deriving DecidableEq, Repr

/-- The text behind an expected start. -/
def after? (start : String) (text : List Char) : Option (List Char) :=
  if start.toList.isPrefixOf text then some (text.drop start.toList.length) else none

/-- Reads a table reference: one quoted name, or two with a point between them. -/
def readReference? (text : List Char) : Option (Option String × String × List Char) :=
  match Identifier.unquote? text with
  | none => none
  -- With a point behind it the first name is that of the schema.
  | some (first, '.' :: rest) =>
    (Identifier.unquote? rest).map fun (second, after) => (some first, second, after)
  | some (first, after) => some (none, first, after)

/-- The column types, one before another whose name begins its own. -/
def storagesByLength : List StorageType :=
  [.textList, .text, .integer, .real, .boolean, .timestamp, .document]

/-- Reads the name of a column type. -/
def readStorage? (text : List Char) : Option (StorageType × List Char) :=
  storagesByLength.findSome? fun storage =>
    (after? storage.sqlName text).map fun rest => (storage, rest)

/-- The constraints that can be told apart in SQL. -/
def writtenConstraints : List Constraints :=
  [⟨false, false, false⟩, ⟨true, false, false⟩, ⟨false, true, false⟩, ⟨false, false, true⟩,
    ⟨false, true, true⟩]

/-- Reads constraints that end a text. -/
def readConstraints? (text : List Char) : Option Constraints :=
  writtenConstraints.find? fun constraints => constraints.sql.toList == text

/-- Reads a statement that adds a column. -/
def readAddColumn? (text : String) : Option AddedColumn := do
  let text ← after? "ALTER TABLE " text.toList
  let (schema, table, text) ← readReference? text
  let text ← after? " ADD COLUMN " text
  let (name, text) ← Identifier.unquote? text
  let text ← after? " " text
  let (storage, text) ← readStorage? text
  let constraints ← readConstraints? text
  return ⟨schema, table, name, storage, constraints⟩

end Statement

end RecordTables
