import RecordTables.Proofs.Memory.Refusal
import RecordTables.Proofs.Server.RowReading
import RecordTables.Proofs.Storing

/-!
What a query says about a row that it cannot read. It names the table, in memory as well as on a server,
and a column that could not be decoded. Where it is a field that could not be made of the value of its
column, the field is what is named, and so it is the column only for fields that have the names of their
columns.
-/

namespace RecordTables

/-- The value of a column does not fit a kind that its field is asked for in, and this is why. -/
def Column.Misfits (asked : List (String × FieldKind)) (column : Column) (value : Value)
    (reason : String) : Prop :=
  ∃ kind fault, (column.field, kind) ∈ asked ∧ kind.decode value = .error fault ∧
    reason = fault.message

/-- Every field of a layout has the name of its column. -/
def Layout.NamedAlike (layout : Layout) : Prop :=
  ∀ leaf ∈ Layout.leaves layout, leaf.tag = some leaf.name

section Reading

variable {α : Type} {asked : List (String × FieldKind)} {reader : RecordReader α}

/--
If a reader that only takes fields cannot read the record of some columns for a value, the failure names
the table that it is told of, and the field of a column whose value does not fit.
-/
theorem RecordReader.Takes.scan (takes : reader.Takes asked []) {columns : List Column}
    {value : Column → Value} {name table named reason : String}
    (failed : (reader (Record.setColumns Dictionary.empty columns value)).1.mapError
      (Failure.withTable name) = .error (.rowScan table named reason)) :
    table = name ∧ ∃ column ∈ columns, column.Misfits asked (value column) reason ∧
      named = column.field := by
  cases read : (reader (Record.setColumns Dictionary.empty columns value)).1 with
  | ok result => rw [read] at failed; cases failed
  | error raised =>
    rw [read] at failed
    -- The failure is that of taking a field, and only one for its value is about a row.
    rcases takes.failed (fun _ _ => id) read with impossible | ⟨source, field, kind, listed, within, taken⟩
    · exact absurd impossible List.not_mem_nil
    · rcases Record.take_eq_error.mp taken with ⟨_, rfl⟩ | ⟨found, fault, held, misfit, rfl⟩
      · cases failed
      · cases failed
        obtain ⟨column, member, rfl, rfl⟩ :=
          Record.exists_of_get?_setColumns _ _ rfl (within named found held)
        exact ⟨rfl, column, member, ⟨kind, fault, listed, misfit, rfl⟩, rfl⟩

/-- A row of a table in memory that cannot be read for a value has it in a column, whose field is named. -/
theorem MemoryTable.readRow_scan (takes : reader.Takes asked []) {held : MemoryTable} {row : Row}
    {table named reason : String} (failed : held.readRow reader row = .error (.rowScan table named reason)) :
    table = held.name ∧ ∃ column ∈ held.columns,
      column.Misfits asked (row.cell column.name) reason ∧ named = column.field := by
  -- In memory a record is made of the cells without fail, and the reader takes from it.
  unfold readRow at failed
  rw [Row.toRecord_eq] at failed
  exact takes.scan failed

/--
A row of a result that cannot be read has a column that cannot be decoded, and this is named, or one with a
value that does not fit, and then its field is named.
-/
theorem ResultRow.read_scan (takes : reader.Takes asked []) {columns : List Column}
    (typed : ∀ column ∈ columns, ∃ storage, column.storage = .ok storage) {row : ResultRow}
    {name table named reason : String}
    (failed : row.read name columns reader = .error (.rowScan table named reason)) :
    table = name ∧ ∃ column ∈ columns, ∃ storage, column.storage = .ok storage ∧
      ((∃ fault, row.decode column.name storage = .error fault ∧ reason = fault.message ∧
          named = column.name) ∨
        ∃ value, row.decode column.name storage = .ok value ∧ column.Misfits asked value reason ∧
          named = column.field) := by
  unfold read toRecord at failed
  rw [fill_eq] at failed
  cases given : columns.mapM (row.value name) with
  | error raised =>
    -- The first column without a value is what the row cannot be read for.
    rw [given] at failed
    cases failed
    obtain ⟨before, column, behind, rfl, refused, _⟩ := mapM_eq_error.mp given
    have member : column ∈ before ++ column :: behind := by simp
    obtain ⟨storage, stored⟩ := typed column member
    obtain ⟨fault, undecoded, same⟩ := (value_eq_error stored).mp refused
    cases same
    exact ⟨rfl, column, member, storage, stored, .inl ⟨fault, undecoded, rfl, rfl⟩⟩
  | ok values =>
    rw [given] at failed
    -- All columns have values, so it is the reader that failed, for a field of one of them.
    obtain ⟨same, column, member, misfits, named⟩ := takes.scan failed
    obtain ⟨storage, stored⟩ := typed column member
    obtain ⟨value, decoded⟩ := exists_mapM_eq_ok.mp ⟨values, given⟩ column member
    rw [decoded] at misfits
    exact ⟨same, column, member, storage, stored,
      .inr ⟨value, (value_eq_ok stored).mp decoded, misfits, named⟩⟩

end Reading

/-- A table whose names are found good has a name. -/
theorem Table.name_ne_empty {table : Table} (valid : table.validate = .ok ()) : table.name ≠ "" := by
  intro empty
  simp [validate, empty, Identifier.validate] at valid

namespace MemoryTable

/-- A table in memory keeps the name and the columns that it was made with. -/
theorem Reached.prepared {layout : Layout} {held : MemoryTable} (reached : Reached layout held) :
    ∃ table, table.name = held.name ∧ Repository.prepare table layout = .ok held.columns := by
  -- Insertions and deletions change the rows alone.
  induction reached with
  | @created table made creation =>
    rw [create_eq] at creation
    cases prepared : Repository.prepare table layout with
    | error failure => rw [prepared] at creation; cases creation
    | ok columns =>
      rw [prepared] at creation
      cases creation
      exact ⟨table, rfl, prepared⟩
  | inserted _ insertion ih =>
    rcases insert_cases insertion with ⟨_, rfl⟩ | ⟨row, _, _, _, _, rfl⟩
    · exact ih
    · exact ih
  | deleted key _ ih => exact ih

/-- A table in memory has a name. -/
theorem Reached.name_ne_empty {layout : Layout} {held : MemoryTable} (reached : Reached layout held) :
    held.name ≠ "" := by
  obtain ⟨table, same, prepared⟩ := reached.prepared
  exact same ▸ Table.name_ne_empty (Repository.validate_of_prepare prepared)

/-- A query that fails for what a row holds fails in reading one of the rows. -/
theorem readRow_of_query_scan {α : Type} {held : MemoryTable} {reader : RecordReader α} {request : Request}
    {table named reason : String}
    (failed : held.query reader request = .error (.rowScan table named reason)) :
    ∃ row ∈ held.rows, held.readRow reader row = .error (.rowScan table named reason) := by
  -- Anything wrong with the request would have been said in another way.
  cases first : (request.faults (held.columns.map (·.name))).head? with
  | some fault =>
    rw [query_refused first] at failed
    cases fault <;> cases failed
  | none => exact readRow_of_query (List.head?_eq_none_iff.mp first) failed

end MemoryTable

namespace Session

/-- The answer to a data statement that is done is what the server replies. -/
theorem send_data_done {table : Table} {operation : String} {failure : StoreFault → Failure}
    {reply : DataReply} {sql : String} {params : List BoundValue} {server after : Server} {answer : Reply}
    (done : send ⟨[], reply, table⟩ operation failure (.data sql params) server = (.done answer, after)) :
    (∃ rows, reply = .affected rows ∧ answer = .affected rows) ∨
      ∃ result, reply = .rows result ∧ answer = .rows result := by
  obtain ⟨link, catalog, saved, log⟩ := server
  cases link with
  | unreachable reason => cases done
  | reachable =>
    cases reply with
    | error text => cases done
    | hang =>
      -- Whether there is a time limit or not, a statement that never ends has no answer.
      change (if table.timeout.isSome then _ else _) = _ at done
      split at done <;> cases done
    | affected rows =>
      cases done
      exact .inl ⟨rows, rfl, rfl⟩
    | rows result =>
      cases done
      exact .inr ⟨result, rfl, rfl⟩

end Session

/-- A query on a server that fails for what a row holds is answered with rows, and fails in reading one of them. -/
theorem Repository.read_of_query_scan {α : Type} {repository : Repository} {reader : RecordReader α}
    {request : Request} {reply : DataReply} {server : Server} {table named reason : String}
    (failed : (repository.query reader request reply server).1 = .failed (.rowScan table named reason)) :
    ∃ result, reply = .rows result ∧ ∃ row ∈ resultRows (.rows result),
      row.read repository.table.name repository.columns reader =
        .error (.rowScan table named reason) := by
  -- Neither the statement nor the sending of it fails in this way.
  rcases Session.andThen_failed failed with unbuilt | ⟨bound, _, _, sent⟩
  · have refused := MemoryTable.failure?_select repository.table.reference repository.columns request
    rw [Session.ofExcept_failed.mp unbuilt] at refused
    obtain ⟨filter, _, said⟩ := Option.map_eq_some_iff.mp refused.symm
    cases said
  · rcases Session.andThen_failed sent with unsent | ⟨answer, after, done, unread⟩
    · rcases Session.send_failed unsent with ⟨fault, said⟩ | said <;> cases said
    · have failure := Session.ofExcept_failed.mp unread
      obtain ⟨before, row, behind, rows, first, _⟩ := mapM_eq_error.mp failure
      rcases Session.send_data_done done with ⟨count, _, rfl⟩ | ⟨result, replied, rfl⟩
      · simp [resultRows] at rows
      · exact ⟨result, replied, row, rows ▸ by simp, first⟩

/-- In a layout with fields that have the names of their columns, so have the columns. -/
theorem Layout.NamedAlike.field_eq {layout : Layout} {columns : List Column} (alike : layout.NamedAlike)
    (flattened : layout.columns = .ok columns) : ∀ column ∈ columns, column.field = column.name := by
  -- Every column stores a leaf of the layout, and the leaf says both names.
  intro column member
  have leaf : column.toField ∈ Layout.leaves layout := by
    rw [← Layout.map_toField_columns flattened]
    exact List.mem_map_of_mem member
  exact (Option.some.inj (alike _ leaf)).symm

/--
With a reader that only takes fields, a query that fails for what a row holds names the table, which has a
name, and there is a row with a column that it fails for. In memory the value of the column does not fit
its field, and the field is named. On a server either the column cannot be decoded, and it is named; or its
value does not fit, and again the field is named. Where the fields have the names of their columns that is
the column each time.
-/
theorem scan_failure_located {α : Type} {layout : Layout} {asked : List (String × FieldKind)}
    {reader : RecordReader α} (takes : reader.Takes asked []) :
    (∀ held, MemoryTable.Reached layout held → ∀ request table named reason,
      held.query reader request = .error (.rowScan table named reason) →
        table = held.name ∧ table ≠ "" ∧ ∃ row ∈ held.rows, ∃ column ∈ held.columns,
          column.Misfits asked (row.cell column.name) reason ∧ named = column.field ∧
          (layout.NamedAlike → named = column.name)) ∧
    ∀ repository, Repository.MadeFor layout repository → ∀ request reply server table named reason,
      (repository.query reader request reply server).1 = .failed (.rowScan table named reason) →
        table = repository.table.name ∧ table ≠ "" ∧
        ∃ result, reply = .rows result ∧ ∃ row ∈ Repository.resultRows (.rows result),
          ∃ column ∈ repository.columns, ∃ storage, column.storage = .ok storage ∧
            ((∃ fault, row.decode column.name storage = .error fault ∧ reason = fault.message ∧
                named = column.name) ∨
              ∃ value, row.decode column.name storage = .ok value ∧
                column.Misfits asked value reason ∧ named = column.field ∧
                (layout.NamedAlike → named = column.name)) := by
  constructor
  -- In memory every cell is there, and only the reader can fail.
  · intro held reached request table named reason failed
    obtain ⟨row, member, unread⟩ := MemoryTable.readRow_of_query_scan failed
    obtain ⟨rfl, column, known, misfits, rfl⟩ := MemoryTable.readRow_scan takes unread
    exact ⟨rfl, reached.name_ne_empty, row, member, column, known, misfits, rfl,
      fun alike => alike.field_eq reached.consistent.1 column known⟩
  -- On a server a cell is decoded before the reader sees it, and either can fail.
  · rintro repository ⟨given, script, first, after, made⟩ request reply server table named reason failed
    obtain ⟨prepared, rfl, _⟩ := Repository.create_done made
    obtain ⟨flattened, types, typed⟩ := Repository.prepare_ok prepared
    obtain ⟨result, replied, row, member, unread⟩ := Repository.read_of_query_scan failed
    obtain ⟨rfl, column, known, storage, stored, located⟩ :=
      ResultRow.read_scan takes (Column.storage_ok typed) unread
    refine ⟨rfl, Table.name_ne_empty (Repository.validate_of_prepare prepared), result, replied, row,
      member, column, known, storage, stored, ?_⟩
    -- A cell that is not decoded is named by its column, and one that does not fit by its field.
    rcases located with undecoded | ⟨value, decoded, misfits, rfl⟩
    · exact .inl undecoded
    · exact .inr ⟨value, decoded, misfits, rfl, fun alike => alike.field_eq flattened column known⟩

/-- A layout with a field that has another name than its column. -/
def medalLayout : Layout := [.field ⟨"id", some "id", .text, ⟨true, false, false⟩⟩,
  .field ⟨"rank", some "position", .signed 32, .none⟩]

/-- The columns of the layout. -/
def medalColumns : List Column := [⟨"id", "id", .text, ⟨true, false, false⟩⟩,
  ⟨"rank", "position", .signed 32, .none⟩]

/-- A way to read medals for which each must have a position. -/
def medalPlan : ReadPlan := [.field "id" .text, .field "rank" (.signed .bits32)]

/-- A table with a medal that has no position. -/
def medalTable : MemoryTable :=
  ⟨"medals", medalColumns, [(Dictionary.empty.insert "id" (.text "a")).insert "position" .null]⟩

/-- The rows of the same medals on a server. -/
def medalRows : ResultRows := ⟨[("id", "text"), ("position", "int4")], [[.text "a", .null]]⟩

/-- The server that has them. -/
def medalServer : Server := .start .reachable ⟨true, [("id", "text"), ("position", "int4")]⟩

/-- The repository of medals. -/
def medalRepository : Repository := ⟨.named "medals", medalColumns,
  Reconciliation.planReport (.named "medals") medalServer.catalog (medalColumns.zip [.text, .integer])⟩

/-- What is said about the medal. -/
def medalFailure : Failure := .rowScan "medals" "rank" "expected integer, got null"

/-- The medal without a position is stored. -/
theorem medalTable_reached : MemoryTable.Reached medalLayout medalTable := by
  -- Nothing but its layout and the insertion has made the table.
  have created : MemoryTable.create (.named "medals") medalLayout =
      .ok ⟨"medals", medalColumns, []⟩ := rfl
  have inserted : MemoryTable.insert ⟨"medals", medalColumns, []⟩
      ((Dictionary.empty.insert "id" (.text "a")).insert "rank" .null) = .ok (1, medalTable) := rfl
  exact .inserted (.created created) inserted

/-- The medals are on the server as well. -/
theorem medalRepository_made : medalRepository.MadeFor medalLayout := by
  -- An empty script has nothing in it that could go wrong.
  have prepared : Repository.prepare (.named "medals") medalLayout = .ok medalColumns := rfl
  have typed : Column.storages medalColumns = .ok [.text, .integer] := rfl
  have reachable : medalServer.link = .reachable := rfl
  have done := Repository.create_spared prepared typed reachable
    ((Session.spared_iff [] _).mpr fun _ impossible => absurd impossible List.not_mem_nil)
  exact ⟨_, _, _, _, done⟩

/-- A medal cannot be read for its rank, which is in the column of the position. -/
theorem scan_failure_located_medals :
    medalPlan.readout.Takes medalPlan.asked [] ∧
    (∃ row ∈ medalTable.rows, ∃ column ∈ medalColumns,
      column.Misfits medalPlan.asked (row.cell column.name) "expected integer, got null" ∧
      "rank" = column.field) ∧
    ∃ row ∈ Repository.resultRows (.rows medalRows), ∃ column ∈ medalColumns, ∃ storage value,
      row.decode column.name storage = .ok value ∧
      column.Misfits medalPlan.asked value "expected integer, got null" ∧ "rank" = column.field := by
  have takes := medalPlan.readout_takes
  have inMemory : medalTable.query medalPlan.readout .everything = .error medalFailure := rfl
  have onServer : (medalRepository.query medalPlan.readout .everything (.rows medalRows)
      medalServer).1 = .failed medalFailure := rfl
  obtain ⟨memory, server⟩ := @scan_failure_located Readout medalLayout _ _ takes
  obtain ⟨_, _, row, member, column, known, misfits, field, _⟩ :=
    memory medalTable medalTable_reached _ _ _ _ inMemory
  obtain ⟨_, _, result, replied, answer, among, other, among', storage, _, located⟩ :=
    server medalRepository medalRepository_made _ _ _ _ _ _ onServer
  cases replied
  refine ⟨takes, ⟨row, member, column, known, misfits, field⟩, answer, among, other, among', storage, ?_⟩
  rcases located with ⟨_, _, _, named⟩ | ⟨value, decoded, unfit, named, _⟩
  · -- No column has the name.
    have unnamed : ∀ column ∈ medalColumns, "rank" ≠ column.name := by decide
    exact absurd named (unnamed other among')
  · exact ⟨value, decoded, unfit, named⟩

/--
A query that fails for what a row holds does not always name a column of the table: the rank of a medal is
named although no column has that name, in memory and on a server.
-/
theorem field_named_for_column :
    (¬ ∀ (layout : Layout) (held : MemoryTable), MemoryTable.Reached layout held →
      ∀ (asked : List (String × FieldKind)) (reader : RecordReader Readout), reader.Takes asked [] →
        (∀ entry ∈ asked, entry.1 ∈ (Layout.leaves layout).map (·.name)) →
        ∀ request table named reason,
          held.query reader request = .error (.rowScan table named reason) →
            named ∈ held.columns.map (·.name)) ∧
    medalTable.query medalPlan.readout .everything = .error medalFailure ∧
    (medalRepository.query medalPlan.readout .everything (.rows medalRows) medalServer).1 =
      .failed medalFailure ∧
    "rank" ∉ medalColumns.map (·.name) := by
  -- The medal stands in its own table, and the name that the failure gives is none of the columns there.
  have unnamed : "rank" ∉ medalColumns.map (·.name) := by decide
  refine ⟨fun always => unnamed ?_, rfl, rfl, unnamed⟩
  exact always medalLayout medalTable medalTable_reached medalPlan.asked medalPlan.readout
    medalPlan.readout_takes (by decide) .everything "medals" "rank" _ rfl

end RecordTables
