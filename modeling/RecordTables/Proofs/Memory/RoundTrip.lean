import RecordTables.Proofs.Memory.Consistency
import RecordTables.Proofs.Memory.Selection

/-!
A record that was inserted is handed to every later query as it was written, comes last among all
records, and is found by its key.
-/

namespace RecordTables

/-- A reader that gives back the record handed to it. -/
def RecordReader.whole : RecordReader Record := fun record => (.ok record, record)

/-- A request for all rows that pass its filters, in the order in which they stand. -/
structure Request.Entire (request : Request) : Prop where
  unsorted : request.sortColumn? = none
  unlimited : request.limit.value ≤ 0
  unskipped : request.offset.value ≤ 0

namespace MemoryTable

/-- A request for all rows that pass its filters selects just these. -/
theorem select_entire {table : MemoryTable} {request : Request} (entire : request.Entire)
    (known : ∀ filter ∈ request.filters, filter.column ∈ table.columns.map (·.name))
    (unordered : ∀ filter ∈ request.filters, filter.ordersNull = false) :
    table.select request = .ok (kept request table.rows) := by
  -- Without a sort column the rows stay as they stand, and the window leaves all of them.
  obtain ⟨unsorted, unlimited, unskipped⟩ := entire
  have sortKnown : ∀ column, request.sortColumn? = some column →
      column ∈ table.columns.map (·.name) := by
    intro column sorted
    rw [unsorted] at sorted
    cases sorted
  have nothing : request.offset.value.toNat = 0 := by omega
  rw [select_ok known unordered sortKnown, window, if_neg (by omega), nothing, List.drop_zero,
    matching, unsorted]
  rfl

/-- A request without filters for all rows selects the whole table. -/
theorem select_all {table : MemoryTable} {request : Request} (entire : request.Entire)
    (unfiltered : request.filters = []) : table.select request = .ok table.rows := by
  have all : kept request table.rows = table.rows := by simp [kept, unfiltered]
  rw [select_entire entire (by simp [unfiltered]) (by simp [unfiltered]), all]

/-- A query that gives back what it hands over gives the records of the rows that are selected. -/
theorem query_whole {table : MemoryTable} {request : Request} {rows : List Row}
    (selected : table.select request = .ok rows) :
    table.query RecordReader.whole request = .ok (rows.map (Row.toRecord table.columns)) := by
  -- The reader fails on no record.
  have read : table.readRow RecordReader.whole = fun row => pure (row.toRecord table.columns) := rfl
  simp only [query, selected, read, List.mapM_pure]
  rfl

/-- After an insertion that counts, the new row is found by its text in the key column, and no other. -/
theorem kept_key {table after : MemoryTable} {row : Row} {column : Column} {key : String}
    {request : Request} (consistent : after.Consistent) (rows : after.rows = table.rows ++ [row])
    (keyed : after.columns.find? (fun column => column.constraints.primaryKey) = some column)
    (held : row.cell column.name = .text key)
    (clause : request.filters = [⟨column.name, .equal, .text key⟩]) :
    kept request after.rows = [row] := by
  -- No row before the new one holds the key.
  have apart := consistent.others_differ keyed rows held
  have keeps : ∀ other : Row, (request.filters.all fun filter => filter.keeps other) =
      (other.cell column.name).same (.text key) := by
    intro other
    rw [clause, List.all_cons, List.all_nil, Bool.and_true]
    exact Filter.accepts_text column.name key (other.cell column.name)
  have found : (row.cell column.name).same (.text key) = true := Value.same_text.mpr held
  have passed : table.rows.filter
      (fun other => (other.cell column.name).same (.text key)) = [] := by
    refine List.filter_eq_nil_iff.mpr fun other stored same => ?_
    exact apart other (List.mem_append_left _ stored) (Value.same_text.mp same)
  rw [kept, rows, List.filter_append]
  simp only [keeps, passed, List.filter_cons, found, if_true, List.filter_nil, List.nil_append]

/--
A record that was inserted is handed to every later query, whatever it asks for, with exactly the
fields of the layout and under each of them the value that was written. Right after the insertion its
row comes behind all rows selected before, and if it holds a text in the key column, a query for that
text selects it alone.
-/
theorem insert_then_query {layout : Layout} {table after : MemoryTable} {record : Record}
    (reached : Reached layout table) (insertion : table.insert record = .ok (1, after)) :
    ∃ row : Row,
      (record.only ((Layout.leaves layout).map (·.name))).names.Perm
        ((Layout.leaves layout).map (·.name)) ∧
      (∀ (later : MemoryTable) (request : Request) (selected : List Row), Reached layout later →
        later.select request = .ok selected →
        ∃ handed, later.query RecordReader.whole request = .ok handed ∧
          handed.length = selected.length ∧
          ∀ position : Nat, selected[position]? = some row →
            handed[position]? = some (record.only ((Layout.leaves layout).map (·.name)))) ∧
      (∀ request : Request, request.Entire → request.filters = [] →
        ∃ before, table.select request = .ok before ∧
          after.select request = .ok (before ++ [row])) ∧
      ∀ (column : Column) (key : String),
        after.columns.find? (fun column => column.constraints.primaryKey) = some column →
        row.cell column.name = .text key →
        ∀ request : Request, request.Entire →
          request.filters = [⟨column.name, .equal, .text key⟩] →
          after.select request = .ok [row] := by
  obtain ⟨flattened, consistent⟩ := reached.consistent
  obtain ⟨row, made, grown⟩ := insert_counted insertion
  have fields := Layout.fields_columns flattened
  obtain ⟨same, names⟩ := Row.toRecord_ofRecord (Layout.columns_nodup flattened) made
  rw [fields] at same names
  refine ⟨row, names, ?_, ?_, ?_⟩
  · -- A later table has the columns of the same layout, so it reads the row as this one does.
    intro later request selected laterReached selection
    have columns : later.columns = table.columns :=
      Except.ok.inj (laterReached.consistent.1.symm.trans flattened)
    refine ⟨_, query_whole selection, List.length_map _, ?_⟩
    intro position found
    rw [List.getElem?_map, found, columns, Option.map_some, same]
  · intro request entire unfiltered
    refine ⟨table.rows, select_all entire unfiltered, ?_⟩
    rw [select_all entire unfiltered, grown]
  · intro column key keyed held request entire clause
    -- The key is distinct in the table after the insertion, so no other row is kept by the clause.
    have known := List.mem_of_find?_eq_some keyed
    have consistentAfter := consistent.insert (Layout.columns_nodup flattened) insertion
    rw [select_entire entire, kept_key consistentAfter (congrArg MemoryTable.rows grown) keyed held
      clause]
    · rw [clause]
      simpa using ⟨column, known, rfl⟩
    · rw [clause]
      simp [Filter.ordersNull, Value.isNull]

/-- A layout with its key two groups deep and with other names for its columns. -/
def shelfLayout : Layout := [.group "copy" [.group "label"
  [.field ⟨"code", some "id", .text, ⟨true, false, false⟩⟩],
  .field ⟨"pages", some "extent", .signed 64, .none⟩]]

/-- The empty table of books. -/
def shelf : MemoryTable := ⟨"books", [⟨"code", "id", .text, ⟨true, false, false⟩⟩,
  ⟨"pages", "extent", .signed 64, .none⟩], []⟩

/-- The record of a book, with a note that no field of the layout asks for. -/
def bookRecord (code note : String) : Record :=
  ((Dictionary.empty.insert "code" (.text code)).insert "note" (.text note)).insert "pages" .null

/-- The row of a book. -/
def bookRow (code : String) : Row :=
  (Dictionary.empty.insert "id" (.text code)).insert "extent" .null

/-- A request for the book with a code. -/
def bookRequest (code : String) : Request := { Request.everything with
  filters := [⟨"id", .equal, .text code⟩] }

/-- The second book is found by its code, and is read without its note. -/
theorem insert_then_query_shelf :
    MemoryTable.insert { shelf with rows := [bookRow "a"] } (bookRecord "b" "worn") =
      .ok (1, { shelf with rows := [bookRow "a", bookRow "b"] }) ∧
    MemoryTable.select { shelf with rows := [bookRow "a", bookRow "b"] } (bookRequest "b") =
      .ok [bookRow "b"] ∧
    ∃ handed, MemoryTable.query { shelf with rows := [bookRow "a", bookRow "b"] }
        RecordReader.whole (bookRequest "b") = .ok handed ∧
      handed[0]? = some ((bookRecord "b" "worn").only ["code", "pages"]) := by
  have created : MemoryTable.create (.named "books") shelfLayout = .ok shelf := rfl
  have first : shelf.insert (bookRecord "a" "new") = .ok (1, { shelf with rows := [bookRow "a"] }) :=
    rfl
  have second : MemoryTable.insert { shelf with rows := [bookRow "a"] } (bookRecord "b" "worn") =
      .ok (1, { shelf with rows := [bookRow "a", bookRow "b"] }) := rfl
  have reached : Reached shelfLayout { shelf with rows := [bookRow "a"] } :=
    .inserted (.created created) first
  obtain ⟨row, _, later, all, byKey⟩ := insert_then_query reached second
  -- The new row is the last one of all.
  obtain ⟨before, _, selected⟩ := all Request.everything ⟨rfl, by decide, by decide⟩ rfl
  have rows : [bookRow "a", bookRow "b"] = before ++ [row] := Except.ok.inj selected
  have last : some (bookRow "b") = some row := by
    simpa using congrArg List.getLast? rows
  cases last
  have found := byKey ⟨"code", "id", .text, ⟨true, false, false⟩⟩ "b" rfl rfl (bookRequest "b")
    ⟨rfl, by decide, by decide⟩ rfl
  obtain ⟨handed, query, _, positions⟩ := later _ _ _ (.inserted reached second) found
  exact ⟨second, found, handed, query, positions 0 rfl⟩

end MemoryTable

end RecordTables
