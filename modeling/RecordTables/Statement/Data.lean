import RecordTables.Column.Layout
import RecordTables.Record
import RecordTables.Statement.Condition

/-! The statements that read, insert and delete records. -/

namespace RecordTables

namespace Statement

/-- The quoted names of some columns. -/
def columnList (columns : List Column) : String :=
  Text.joinWith ", " (columns.map fun column => Identifier.quote column.name)

/-- A keyword with a number behind it, or nothing when the number is not positive. -/
def windowPart (keyword : String) (count : Signed 64) : String :=
  if 0 < count.value then keyword ++ String.ofList (Decimal.intText count.value) else ""

/-- The text that an optional part adds behind a keyword. -/
def optionalPart (keyword : String) (part : Option String) : String :=
  match part with
  | some text => keyword ++ text
  | none => ""

/-- The statement that selects the records of a request. -/
def select (reference : String) (columns : List Column) (request : Request) :
    Except Failure Bound :=
  match (condition request.filters 1).1 with
  | .error failure => .error failure
  -- Values are bound in the condition alone; all else in the text is names and numbers.
  | .ok bound =>
    .ok ⟨"SELECT " ++ columnList columns ++ " FROM " ++ reference ++
        optionalPart " WHERE " (bound.map (·.sql)) ++
        optionalPart " ORDER BY " (order request.sortBy request.descending) ++
        windowPart " LIMIT " request.limit ++ windowPart " OFFSET " request.offset,
      (bound.map (·.params)).getD []⟩

/-- A value for a placeholder and the type of the column that it goes to. -/
structure TypedParam where
  storage : StorageType
  value : Value

/-- The statement that inserts a record, and its values. -/
structure Insertion where
  sql : String
  params : List TypedParam

/-- The values of the columns, taken out of a record one after the other. -/
def typedParams : List Column → Record → Except Failure (List TypedParam)
  | [], _ => .ok []
  | column :: rest, record =>
    match record.get? column.field with
    | none => .error (.missingValue column.field)
    | some value =>
      match column.storage with
      | .error failure => .error failure
      -- A value is taken once, so that a second column of the same field finds none.
      | .ok storage => (typedParams rest (record.erase column.field)).map (⟨storage, value⟩ :: ·)

/-- The statement that inserts into some columns, and skips a row in conflict with another. -/
def insertText (reference : String) (columns : List Column) : String :=
  "INSERT INTO " ++ reference ++ " (" ++ columnList columns ++ ") VALUES (" ++
    Text.joinWith ", " ((List.range' 1 columns.length).map placeholder) ++ ") ON CONFLICT DO NOTHING"

/-- The statement that inserts a record, which must have a value for every column. -/
def insert (reference : String) (columns : List Column) (record : Record) :
    Except Failure Insertion :=
  (typedParams columns record).map fun params => ⟨insertText reference columns, params⟩

/-- The statement that deletes the rows with a key. -/
def delete (reference : String) (keyColumn : String) : String :=
  "DELETE FROM " ++ reference ++ " WHERE " ++ Identifier.quote keyColumn ++ " = $1"

end Statement

end RecordTables
