import RecordTables.Memory.Table

/-! Several handles on tables in memory, some of which share their rows. -/

namespace RecordTables

/-- Tables in memory and handles on them; a handle is the number of its table. -/
structure MemoryHandles where
  tables : List MemoryTable
  handles : List Nat

/-- A call through a handle, or the making of one. -/
inductive MemoryCall where
  | insert (handle : Nat) (record : Record)
  | delete (handle : Nat) (key : String)
  | query (handle : Nat) (request : Request)
  | share (handle : Nat)
  | fresh (table : Table)

/-- The answer to a call. -/
inductive MemoryAnswer (α : Type) where
  | count (rows : Nat)
  | found (items : List α)
  | handle (number : Nat)
  | failed (failure : Failure)
  | noHandle

namespace MemoryHandles

/-- One handle on one table. -/
def single (table : MemoryTable) : MemoryHandles := ⟨[table], [0]⟩

/-- The table behind a handle. -/
def table? (handles : MemoryHandles) (handle : Nat) : Option MemoryTable :=
  handles.handles[handle]?.bind fun number => handles.tables[number]?

/-- Puts a table in the place of the one behind a handle. -/
def update (handles : MemoryHandles) (handle : Nat) (table : MemoryTable) : MemoryHandles :=
  match handles.handles[handle]? with
  | none => handles
  | some number => { handles with tables := handles.tables.set number table }

/-- Carries out a call with the layout and the reader that all tables have. -/
def call {α : Type} (layout : Layout) (reader : RecordReader α) (handles : MemoryHandles) :
    MemoryCall → MemoryAnswer α × MemoryHandles
  -- A failed insertion leaves all tables as they are.
  | .insert handle record =>
    match handles.table? handle with
    | none => (.noHandle, handles)
    | some table =>
      match table.insert record with
      | .error failure => (.failed failure, handles)
      | .ok (count, changed) => (.count count, handles.update handle changed)
  | .delete handle key =>
    match handles.table? handle with
    | none => (.noHandle, handles)
    | some table =>
      let (count, changed) := table.delete key
      (.count count, handles.update handle changed)
  | .query handle request =>
    match handles.table? handle with
    | none => (.noHandle, handles)
    | some table =>
      match table.query reader request with
      | .error failure => (.failed failure, handles)
      | .ok items => (.found items, handles)
  -- The new handle leads to the same table, so that each sees what the other does.
  | .share handle =>
    match handles.handles[handle]? with
    | none => (.noHandle, handles)
    | some number =>
      (.handle handles.handles.length, { handles with handles := handles.handles ++ [number] })
  -- A new table is behind all others and has a handle of its own.
  | .fresh table =>
    match MemoryTable.create table layout with
    | .error failure => (.failed failure, handles)
    | .ok created =>
      (.handle handles.handles.length,
        ⟨handles.tables ++ [created], handles.handles ++ [handles.tables.length]⟩)

end MemoryHandles

end RecordTables
