import RecordTables.Entity
import RecordTables.Memory.Row
import RecordTables.Table

/-! Tables of records held in memory, in the order of insertion. -/

namespace RecordTables

/-- A table held in memory: its name, its columns and its rows. -/
structure MemoryTable where
  name : String
  columns : List Column
  rows : List Row

namespace MemoryTable

/-- An empty table, once its name, its layout and the types of its columns are found good. -/
def create (table : Table) (layout : Layout) : Except Failure MemoryTable :=
  match table.validate with
  | .error failure => .error failure
  | .ok () =>
    match layout.columns with
    | .error failure => .error failure
    -- The types are looked at, and then left to the columns.
    | .ok columns => (Column.storages columns).map fun _ => ⟨table.name, columns, []⟩

/-- The number of rows. -/
def size (table : MemoryTable) : Nat := table.rows.length

/-- The first column that holds null although it needs a value. -/
def nullColumn? (table : MemoryTable) (row : Row) : Option Column :=
  table.columns.find? fun column =>
    column.constraints.requiresValue && (row.cell column.name).isNull

/-- Whether a row holds the same value in a column, null being the same as nothing. -/
def collides (row other : Row) (column : Column) : Bool :=
  !(row.cell column.name).isNull && (other.cell column.name).same (row.cell column.name)

/-- The first column whose value must be distinct and is held by a row already. -/
def conflict? (table : MemoryTable) (row : Row) : Option Column :=
  table.columns.find? fun column =>
    column.constraints.requiresDistinct && table.rows.any fun other => collides row other column

/-- Inserts a record and counts it; a record in conflict with a row is passed over. -/
def insert (table : MemoryTable) (record : Record) : Except Failure (Nat × MemoryTable) :=
  match Row.ofRecord table.columns record with
  | .error failure => .error failure
  | .ok row =>
    match table.nullColumn? row with
    -- Null where a value is required is refused before any row is compared.
    | some column => .error (.nullViolation table.name column.name)
    | none =>
      match table.conflict? row with
      -- A row that repeats a key or a distinct value is passed over, and that is no failure.
      | some _ => .ok (0, table)
      | none => .ok (1, { table with rows := table.rows ++ [row] })

/-- Whether the key column of a row holds a text. -/
def hasKey (table : MemoryTable) (key : String) (row : Row) : Bool :=
  (row.cell (Column.keyName table.columns)).same (.text key)

/-- Deletes the rows with a key and counts them. -/
def delete (table : MemoryTable) (key : String) : Nat × MemoryTable :=
  let kept := table.rows.filter fun row => !table.hasKey key row
  (table.rows.length - kept.length, { table with rows := kept })

/-- Refuses a column that the table does not have. -/
def checkColumn (table : MemoryTable) (column : String) : Except Failure Unit :=
  if table.columns.any fun known => known.name == column then .ok ()
  else .error (.unknownColumn table.name column)

/-- Refuses a filter on an unknown column, and one that asks for an order against null. -/
def checkFilter (table : MemoryTable) (filter : Filter) : Except Failure Unit :=
  match table.checkColumn filter.column with
  | .error failure => .error failure
  | .ok () => if filter.ordersNull then .error filter.nullFailure else .ok ()

/-- Checks filters in order, up to the first that is refused. -/
def checkFilters (table : MemoryTable) : List Filter → Except Failure Unit
  | [] => .ok ()
  | filter :: rest =>
    match table.checkFilter filter with
    | .error failure => .error failure
    | .ok () => checkFilters table rest

/-- Checks the filters of a request and then its sort column. -/
def checkRequest (table : MemoryTable) (request : Request) : Except Failure Unit :=
  -- Filters are looked at before the sort column.
  match table.checkFilters request.filters with
  | .error failure => .error failure
  | .ok () =>
    match request.sortColumn? with
    | none => .ok ()
    | some column => table.checkColumn column

/-- Whether one row may stand before another in the order by a column. -/
def mayPrecede (column : String) (descending : Bool) (row other : Row) : Bool :=
  let ordering := (row.cell column).sortCompare (other.cell column)
  -- Turning the order around, and not the rows, keeps equal rows as they were.
  (if descending then ordering.swap else ordering) != .gt

/-- The rows that pass all filters of a request, in its order; rows alike stay as they were. -/
def matching (request : Request) (rows : List Row) : List Row :=
  let kept := rows.filter fun row => request.filters.all fun filter => filter.keeps row
  match request.sortColumn? with
  | none => kept
  -- The sort is stable: rows that compare as equal stay in the order in which they were stored.
  | some column => kept.mergeSort (mayPrecede column request.descending)

/-- The part of a list that a request asks for. -/
def window {α : Type} (request : Request) (items : List α) : List α :=
  let rest := items.drop request.offset.value.toNat
  if 0 < request.limit.value then rest.take request.limit.value.toNat else rest

/-- The rows that a request selects. -/
def select (table : MemoryTable) (request : Request) : Except Failure (List Row) :=
  (table.checkRequest request).map fun () => window request (matching request table.rows)

/-- Reads a row, and names the table in a failure that does not. -/
def readRow {α : Type} (table : MemoryTable) (reader : RecordReader α) (row : Row) :
    Except Failure α :=
  (reader (row.toRecord table.columns)).1.mapError (Failure.withTable table.name)

/-- Reads the rows that a request selects, up to the first that cannot be read. -/
def query {α : Type} (table : MemoryTable) (reader : RecordReader α) (request : Request) :
    Except Failure (List α) :=
  match table.select request with
  | .error failure => .error failure
  -- Only the rows of the page are read.
  | .ok rows => rows.mapM (table.readRow reader)

end MemoryTable

end RecordTables
