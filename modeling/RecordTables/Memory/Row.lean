import RecordTables.Column.Layout
import RecordTables.Record
import RecordTables.Request.Basic

/-! Rows by column name: how records become rows, and which rows a filter keeps. -/

namespace RecordTables

/-- The values of one row by column name. -/
abbrev Row := Dictionary Value

namespace Row

/-- The value in a column; a row without the column holds null there. -/
def cell (row : Row) (column : String) : Value := (row.get? column).getD .null

/-- Moves the values of the columns out of a record into a row. -/
def fill (row : Row) : List Column → Record → Except Failure Row
  | [], _ => .ok row
  | column :: rest, record =>
    match record.get? column.field with
    -- A field that two columns ask for is gone when the second one comes.
    | none => .error (.missingValue column.field)
    | some value => fill (row.insert column.name value) rest (record.erase column.field)

/-- The row of a record, which must have a value for every column. -/
def ofRecord (columns : List Column) (record : Record) : Except Failure Row :=
  fill Dictionary.empty columns record

/-- The record of a row, with every column under the name of its field. -/
def toRecord (columns : List Column) (row : Row) : Record :=
  columns.foldl (fun record column => record.insert column.field (row.cell column.name)) Dictionary.empty

end Row

namespace Value

/-- Equality as SQL sees it: unknown with null, and by order between different kinds. -/
def sqlSame? (left right : Value) : Option Bool :=
  if left.isNull || right.isNull then none
  else if left.kind = right.kind then some (left.same right)
  else (left.compare? right).map fun ordering => ordering == .eq

/-- The order of a sorted column: null is greater than any value. -/
def sortCompare (left right : Value) : Ordering :=
  match left.isNull, right.isNull with
  | true, true => .eq
  -- Null stands behind all values.
  | true, false => .gt
  | false, true => .lt
  -- Values that do not compare are taken for equal.
  | false, false => (left.compare? right).getD .eq

end Value

namespace Filter

/-- Whether a column holding the given value passes the filter. -/
def accepts (filter : Filter) (actual : Value) : Bool :=
  if filter.value.isNull then
    -- A filter against null asks whether there is a value.
    match filter.comparison with
    | .equal => actual.isNull
    | .unequal => !actual.isNull
    | .greater => false
    | .less => false
  else
    -- Values that cannot be compared are neither equal nor unequal.
    match filter.comparison with
    | .equal => actual.sqlSame? filter.value == some true
    | .unequal => actual.sqlSame? filter.value == some false
    | .greater => actual.compare? filter.value == some .gt
    | .less => actual.compare? filter.value == some .lt

/-- Whether a row passes the filter. -/
def keeps (filter : Filter) (row : Row) : Bool := filter.accepts (row.cell filter.column)

end Filter

end RecordTables
