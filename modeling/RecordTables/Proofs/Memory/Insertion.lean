import RecordTables.Proofs.Memory.Consistency

/-!
What becomes of a record that is to be inserted is settled by the first check that it does not pass: for a
field that finds no value, for null where a value is needed, and for a value that is stored already and has
to be distinct. Only a record that passes all of them changes a table, and its row comes behind all others.
-/

namespace RecordTables

/-- A row holds null in a column that needs a value, as the key does. -/
def Column.Lacks (column : Column) (row : Row) : Prop :=
  (column.constraints.primaryKey = true ∨ column.constraints.notNull = true) ∧
    row.cell column.name = .null

/-- A column is the first of some in which a row holds null although a value is needed. -/
def Row.LacksFirst (row : Row) (columns : List Column) (column : Column) : Prop :=
  ∃ before behind, columns = before ++ column :: behind ∧
    (∀ earlier ∈ before, ¬ earlier.Lacks row) ∧ column.Lacks row

/-- A row has a value in a column of distinct values that another row holds there already. -/
def Column.Repeats (column : Column) (rows : List Row) (row : Row) : Prop :=
  (column.constraints.primaryKey = true ∨ column.constraints.unique = true) ∧
    row.cell column.name ≠ .null ∧
    ∃ stored ∈ rows, (stored.cell column.name).same (row.cell column.name) = true

namespace MemoryTable

variable {table : MemoryTable} {record : Record} {row : Row}

/-- The check for values that are needed finds the columns that lack one. -/
theorem lacks_iff {column : Column} :
    (column.constraints.requiresValue && (row.cell column.name).isNull) = true ↔
      column.Lacks row := by
  rw [Bool.and_eq_true, Value.isNull_iff, Constraints.requiresValue, Bool.or_eq_true]
  rfl

/-- The check for distinct values finds the columns in which a value is repeated. -/
theorem repeats_iff {rows : List Row} {column : Column} :
    (column.constraints.requiresDistinct && rows.any fun stored => collides row stored column) =
      true ↔ column.Repeats rows row := by
  -- The declaration asks for distinct values in two ways, and null repeats nothing.
  simp only [Column.Repeats, Constraints.requiresDistinct, collides, Bool.and_eq_true, Bool.or_eq_true,
    List.any_eq_true, Bool.not_eq_true', Value.isNull_eq_false_iff]
  tauto

/-- A record without a value for a field is refused for the first such field. -/
theorem Reached.insert_missing {layout : Layout} {table : MemoryTable} {record : Record}
    (reached : Reached layout table) {field : String}
    (misses : record.Misses ((Layout.leaves layout).map (·.name)) field) :
    table.insert record = .error (.missingValue field) := by
  -- There is no row, so nothing else is looked at.
  rw [← Layout.fields_columns reached.consistent.1] at misses
  unfold insert
  rw [Row.ofRecord_eq, Record.takeValues_missed misses]
  rfl

/-- A record whose row lacks a value is refused for the first column that lacks one, conflict or not. -/
theorem insert_lacking (made : Row.ofRecord table.columns record = .ok row) {column : Column}
    (lacks : row.LacksFirst table.columns column) :
    table.insert record = .error (.nullViolation table.name column.name) := by
  -- The search for null goes through the columns in order and stops at the first.
  have found : table.nullColumn? row = some column := by
    obtain ⟨before, behind, split, earlier, lacks⟩ := lacks
    refine List.find?_eq_some_iff_append.mpr ⟨lacks_iff.mpr lacks, before, behind, split, ?_⟩
    intro other member
    rw [Bool.not_eq_true', ← Bool.not_eq_true, lacks_iff]
    exact earlier other member
  simp only [insert, made, found]

/-- A row that lacks no value passes the check for them. -/
theorem nullColumn?_none (filled : ∀ column ∈ table.columns, ¬ column.Lacks row) :
    table.nullColumn? row = none :=
  List.find?_eq_none.mpr fun column member => mt lacks_iff.mp (filled column member)

/-- A record whose row lacks no value, but repeats one that has to be distinct, is passed over. -/
theorem insert_repeating (made : Row.ofRecord table.columns record = .ok row)
    (filled : ∀ column ∈ table.columns, ¬ column.Lacks row)
    (repeats : ∃ column ∈ table.columns, column.Repeats table.rows row) :
    table.insert record = .ok (0, table) := by
  -- Whichever column is found first, the outcome is the same.
  obtain ⟨column, known, repeats⟩ := repeats
  cases found : table.conflict? row with
  | none => exact absurd (repeats_iff.mpr repeats) (List.find?_eq_none.mp found column known)
  | some first => simp only [insert, made, nullColumn?_none filled, found]

/-- A record whose row neither lacks a value nor repeats one goes behind all rows. -/
theorem insert_free (made : Row.ofRecord table.columns record = .ok row)
    (filled : ∀ column ∈ table.columns, ¬ column.Lacks row)
    (free : ∀ column ∈ table.columns, ¬ column.Repeats table.rows row) :
    table.insert record = .ok (1, { table with rows := table.rows ++ [row] }) := by
  -- No column conflicts, and none is null that may not be.
  have found : table.conflict? row = none :=
    List.find?_eq_none.mpr fun column known => mt repeats_iff.mp (free column known)
  simp only [insert, made, nullColumn?_none filled, found]

end MemoryTable

namespace MemoryHandles

variable {handles : MemoryHandles} {handle : Nat} {table : MemoryTable}

/-- A table put in its own place changes nothing. -/
theorem update_same (behind : handles.table? handle = some table) :
    handles.update handle table = handles := by
  -- There is a place for the handle, since there is a table, and that table stands there.
  unfold table? at behind
  unfold update
  cases held : handles.handles[handle]? with
  | none => rfl
  | some number =>
    simp only [held, Option.bind_some] at behind
    obtain ⟨bound, same⟩ := List.getElem?_eq_some_iff.mp behind
    simp only [← same, List.set_getElem_self]

/-- A table put behind a handle is then behind all handles that share with it, and behind no others. -/
theorem table?_update (behind : handles.table? handle = some table) (changed : MemoryTable)
    (other : Nat) : (handles.update handle changed).table? other =
      if handles.handles[other]? = handles.handles[handle]? then some changed
      else handles.table? other := by
  unfold table? at behind
  cases held : handles.handles[handle]? with
  | none => simp [held] at behind
  | some number =>
    simp only [held, Option.bind_some] at behind
    obtain ⟨bound, _⟩ := List.getElem?_eq_some_iff.mp behind
    simp only [update, held, table?]
    -- What is behind another handle depends only on whether its place is the changed one.
    cases found : handles.handles[other]? with
    | none => simp
    | some place =>
      by_cases same : place = number
      · subst same
        simp [bound]
      · simp [same, Ne.symm same]

/--
A record that is to be inserted is refused for the first field that finds no value in it; if every field
finds one, for the first column that needs a value and would hold null; and otherwise it is passed over if
one of its values has to be distinct and is stored already. In all these cases nothing changes. Any other
record is counted, and its row is then behind all others, for every handle that shares the table.
-/
theorem insertion_settled {α : Type} {layout : Layout} (reached : handles.AllReached layout)
    (behind : handles.table? handle = some table) (reader : RecordReader α) (record : Record) :
    ∃ answer after, handles.call layout reader (.insert handle record) = (answer, after) ∧
      (∀ field, record.Misses ((Layout.leaves layout).map (·.name)) field →
        answer = .failed (.missingValue field) ∧ after = handles) ∧
      ((∀ field, ¬ record.Misses ((Layout.leaves layout).map (·.name)) field) →
        ∃ row : Row, row.names.Perm (table.columns.map (·.name)) ∧
          (∀ column ∈ table.columns, record.get? column.field = some (row.cell column.name)) ∧
          (∀ column, row.LacksFirst table.columns column →
            answer = .failed (.nullViolation table.name column.name) ∧ after = handles) ∧
          ((∀ column ∈ table.columns, ¬ column.Lacks row) →
            ((∃ column ∈ table.columns, column.Repeats table.rows row) →
              answer = .count 0 ∧ after = handles) ∧
            ((∀ column ∈ table.columns, ¬ column.Repeats table.rows row) →
              answer = .count 1 ∧ ∀ other, after.table? other =
                if handles.handles[other]? = handles.handles[handle]?
                then some { table with rows := table.rows ++ [row] }
                else handles.table? other))) := by
  -- The fields of the layout are those of the columns, in the same order.
  have reachedTable := reached table (table?_mem behind)
  have flattened := reachedTable.consistent.1
  have distinct := Layout.columns_nodup flattened
  refine ⟨_, _, (Prod.eta _).symm, ?_, ?_⟩
  · intro field misses
    simp only [call, behind, reachedTable.insert_missing misses, and_self]
  · intro held
    -- A record from which every field takes its value becomes a row, which is then looked at.
    rw [Record.nothing_missed_iff, ← Layout.fields_columns flattened] at held
    obtain ⟨row, made⟩ := Row.ofRecord_held held.1 held.2
    refine ⟨row, Row.names_ofRecord distinct made, Row.cell_ofRecord distinct made, ?_, ?_⟩
    · intro column lacks
      simp only [call, behind, MemoryTable.insert_lacking made lacks, and_self]
    · intro filled
      -- The table is put in its place in both cases, but is another one only in the second.
      refine ⟨fun repeats => ?_, fun free => ?_⟩
      · simp only [call, behind, MemoryTable.insert_repeating made filled repeats,
          update_same behind, and_self]
      · simp only [call, behind, MemoryTable.insert_free made filled free, true_and]
        exact table?_update behind _

/-- A layout of lockers, each of which has an owner of its own. -/
def lockerLayout : Layout := [.field ⟨"number", some "id", .text, ⟨true, false, false⟩⟩,
  .field ⟨"owner", some "owner", .text, ⟨false, true, true⟩⟩]

/-- The row of a locker. -/
def lockerRow (number : String) (owner : Value) : Row :=
  (Dictionary.empty.insert "id" (.text number)).insert "owner" owner

/-- The record of a locker. -/
def lockerRecord (number : String) (owner : Value) : Record :=
  (Dictionary.empty.insert "number" (.text number)).insert "owner" owner

/-- A table of lockers with some rows. -/
def lockers (rows : List Row) : MemoryTable := ⟨"lockers", [⟨"number", "id", .text, ⟨true, false, false⟩⟩,
  ⟨"owner", "owner", .text, ⟨false, true, true⟩⟩], rows⟩

/-- Two handles on the table in which the first locker is taken. -/
def takenLocker : MemoryHandles := ⟨[lockers [lockerRow "a" (.text "Ada")]], [0, 0]⟩

/-- The taken locker without an owner is refused for its owner, and a second one of an owner passed over. -/
theorem insertion_settled_lockers :
    takenLocker.AllReached lockerLayout ∧
    takenLocker.call lockerLayout (ReadPlan.readout []) (.insert 1 (lockerRecord "a" .null)) =
      (.failed (.nullViolation "lockers" "owner"), takenLocker) ∧
    takenLocker.call lockerLayout (ReadPlan.readout []) (.insert 1 (lockerRecord "b" (.text "Ada"))) =
      (.count 0, takenLocker) := by
  -- The first locker is stored and its table is reached.
  have created : MemoryTable.create (.named "lockers") lockerLayout = .ok (lockers []) := rfl
  have first : (lockers []).insert (lockerRecord "a" (.text "Ada")) =
      .ok (1, lockers [lockerRow "a" (.text "Ada")]) := rfl
  have reached : takenLocker.AllReached lockerLayout :=
    List.forall_mem_singleton.mpr (.inserted (.created created) first)
  have behind : takenLocker.table? 1 = some (lockers [lockerRow "a" (.text "Ada")]) := rfl
  -- The row without an owner repeats the number too, but the columns are filled before any is compared.
  have refused : takenLocker.call lockerLayout (ReadPlan.readout [])
      (.insert 1 (lockerRecord "a" .null)) =
        (.failed (.nullViolation "lockers" "owner"), takenLocker) := by
    obtain ⟨answer, after, called, _, settled⟩ := insertion_settled reached behind
      (ReadPlan.readout []) (lockerRecord "a" .null)
    obtain ⟨row, _, cells, lacking, _⟩ :=
      settled (Record.nothing_missed_iff.mpr ⟨by decide, by decide⟩)
    have number : row.cell "id" = .text "a" := (Option.some.inj (cells _ (.head _))).symm
    have owner : row.cell "owner" = .null := (Option.some.inj (cells _ (.tail _ (.head _)))).symm
    obtain ⟨rfl, rfl⟩ := lacking _ ⟨[_], [], rfl, by simp [Column.Lacks, number], .inr rfl, owner⟩
    exact called
  -- The row has a new number, all columns are filled, and the owner is that of the stored row.
  have passed : takenLocker.call lockerLayout (ReadPlan.readout [])
      (.insert 1 (lockerRecord "b" (.text "Ada"))) = (.count 0, takenLocker) := by
    obtain ⟨answer, after, called, _, settled⟩ := insertion_settled reached behind
      (ReadPlan.readout []) (lockerRecord "b" (.text "Ada"))
    obtain ⟨row, _, cells, _, whole⟩ :=
      settled (Record.nothing_missed_iff.mpr ⟨by decide, by decide⟩)
    have number : row.cell "id" = .text "b" := (Option.some.inj (cells _ (.head _))).symm
    have owner : row.cell "owner" = .text "Ada" :=
      (Option.some.inj (cells _ (.tail _ (.head _)))).symm
    have filled : ∀ column ∈ (lockers []).columns, ¬ column.Lacks row := by
      simp [lockers, Column.Lacks, number, owner]
    obtain ⟨rfl, rfl⟩ := (whole filled).1 ⟨_, .tail _ (.head _), .inr rfl, by simp [owner], _,
      .head _, by rw [owner]; rfl⟩
    exact called
  exact ⟨reached, refused, passed⟩

end MemoryHandles

end RecordTables
