import RecordTables.Proofs.Record
import RecordTables.Proofs.Server.Acceptance
import RecordTables.Proofs.Server.Decoding

/-!
Rows of a result are read by the names of their columns. Only the columns of the table matter, wherever
they stand among others; the record has the value of each under its field, or the first that has none is
what the row fails for.
-/

namespace RecordTables

namespace ResultRow

/-- The columns that a row has a value for, each with its name and type. -/
def held (row : ResultRow) : List ((String × String) × Value) := row.columns.zip row.cells

/-- The names of the columns that a row has a value for. -/
def names (row : ResultRow) : List String := row.held.map fun entry => entry.1.1

section Cells

variable {row other : ResultRow} {name type : String} {value : Value}

/-- Where no two columns have one name, a column is found by its name. -/
theorem cell?_eq_some (distinct : row.names.Nodup) :
    row.cell? name = some (type, value) ↔ ((name, type), value) ∈ row.held := by
  -- No other column has the name, so it does not matter from which end they are looked through.
  have reversed : (row.held.reverse.map fun entry => entry.1.1).Nodup := by
    rw [List.map_reverse]
    exact List.nodup_reverse.mpr distinct
  unfold cell?
  rw [Option.map_eq_some_iff]
  constructor
  · rintro ⟨⟨⟨found, kind⟩, content⟩, last, same⟩
    cases same
    have named : found = name := by simpa using List.find?_some last
    exact named ▸ List.mem_reverse.mp (List.mem_of_find?_eq_some last)
  · intro member
    exact ⟨_, find?_of_mem reversed (List.mem_reverse.mpr member), rfl⟩

/-- No column is found under a name that none has. -/
theorem cell?_eq_none : row.cell? name = none ↔ name ∉ row.names := by
  -- The search goes from the last column to the first, which makes no difference when none has the name.
  unfold cell? names
  rw [Option.map_eq_none_iff, List.find?_eq_none, List.mem_map]
  constructor
  · rintro passed ⟨entry, member, same⟩
    exact passed entry (List.mem_reverse.mpr member) (beq_iff_eq.mpr same)
  · intro absent entry member same
    exact absent ⟨entry, List.mem_reverse.mp member, beq_iff_eq.mp same⟩

/-- Rows that have the same under a name find the same under it. -/
theorem cell?_congr (distinct : row.names.Nodup) (otherDistinct : other.names.Nodup)
    (same : ∀ type value, ((name, type), value) ∈ other.held ↔ ((name, type), value) ∈ row.held) :
    other.cell? name = row.cell? name := by
  -- With distinct names what is found under a name is what is held under it, in whatever order.
  refine Option.ext fun found => ?_
  obtain ⟨type, value⟩ := found
  rw [cell?_eq_some otherDistinct, cell?_eq_some distinct, same]

/--
Rows in which the same columns stand in any order, apart from some that only one has, have the same under
every name that none of those has.
-/
theorem mem_held_of_perm {added : List ((String × String) × Value)}
    (rearranged : other.held.Perm (row.held ++ added)) (unnamed : ∀ entry ∈ added, entry.1.1 ≠ name)
    (type : String) (value : Value) :
    ((name, type), value) ∈ other.held ↔ ((name, type), value) ∈ row.held := by
  rw [rearranged.mem_iff, List.mem_append]
  exact or_iff_left fun extra => unnamed _ extra rfl

end Cells

/-- A row gives a value for a column: null for null, and else what the content is decoded to by the type. -/
inductive Gives (row : ResultRow) (column : Column) : Value → Prop where
  | null {type : String} (held : ((column.name, type), .null) ∈ row.held) : Gives row column .null
  | content {storage : StorageType} {type : String} {content found : Value}
      (stored : column.storage = .ok storage) (held : ((column.name, type), content) ∈ row.held)
      (fits : type ∈ storage.acceptedTypes) (decoded : decodeContent? storage content = some found) :
      Gives row column found

/-- A row gives no value for a column: it has none of the name, or content that cannot be decoded. -/
inductive Refuses (row : ResultRow) (column : Column) : ColumnFault → Prop where
  | absent (missing : column.name ∉ row.names) : Refuses row column (.absent column.name)
  | mismatched {storage : StorageType} {type : String} {content : Value}
      (stored : column.storage = .ok storage) (held : ((column.name, type), content) ∈ row.held)
      (present : content ≠ .null)
      (unfit : type ∉ storage.acceptedTypes ∨ decodeContent? storage content = none) :
      Refuses row column (.mismatched column.name)

section Decoding

variable {row other : ResultRow} {column : Column} {storage : StorageType}

/-- What a column is decoded to is settled by what is found under its name. -/
theorem decode_congr {name : String} (same : other.cell? name = row.cell? name)
    (storage : StorageType) : other.decode name storage = row.decode name storage := by
  unfold decode
  rw [same]

/-- Content is decoded by the type of the column if the result has a type for it that this is decoded from. -/
theorem decode_present {name type : String} {content : Value}
    (cell : row.cell? name = some (type, content)) (present : content ≠ .null) :
    row.decode name storage =
      if type ∈ storage.acceptedTypes then
        match decodeContent? storage content with
        | some decoded => .ok decoded
        | none => .error (.mismatched name)
      else .error (.mismatched name) := by
  -- The case of null is left out, and every other content goes the same way.
  have same : row.decode name storage =
      if storage.acceptedTypes.contains type then
        match decodeContent? storage content with
        | some decoded => .ok decoded
        | none => .error (.mismatched name)
      else .error (.mismatched name) := by
    unfold decode
    rw [cell]
    cases content with
    | null => exact absurd rfl present
    | _ => rfl
  simp only [same, List.contains_iff_mem]

/-- Nothing is decoded from null. -/
theorem ne_null_of_decodeContent? {content found : Value}
    (decoded : decodeContent? storage content = some found) : content ≠ .null := by
  -- Null is not content, which is all that is decoded here.
  rintro rfl
  rw [decodesHosts.null] at decoded
  cases decoded

/-- A column of a row with distinct names is decoded exactly to what the row gives for it. -/
theorem decode_eq_ok (distinct : row.names.Nodup) (stored : column.storage = .ok storage)
    {found : Value} : row.decode column.name storage = .ok found ↔ row.Gives column found := by
  constructor
  · -- Under the name there is null, or content of a type that it is decoded from.
    intro decoded
    cases cell : row.cell? column.name with
    | none => simp [decode, cell] at decoded
    | some entry =>
      obtain ⟨type, content⟩ := entry
      have held := (cell?_eq_some distinct).mp cell
      by_cases present : content = .null
      · subst present
        simp only [decode, cell, Except.ok.injEq] at decoded
        exact decoded ▸ .null held
      · rw [decode_present cell present] at decoded
        split at decoded
        · rename_i fits
          split at decoded
          · rename_i value read
            exact .content stored held fits (read.trans (congrArg some (Except.ok.inj decoded)))
          · cases decoded
        · cases decoded
  -- Null is read whatever the type is, and content if the types go together.
  · intro gives
    cases gives with
    | null held => simp only [decode, (cell?_eq_some distinct).mpr held]
    | content again held fits decoded =>
      cases stored.symm.trans again
      have present := ne_null_of_decodeContent? decoded
      rw [decode_present ((cell?_eq_some distinct).mpr held) present, if_pos fits, decoded]

/-- A column of a row with distinct names cannot be decoded exactly for what the row refuses it for. -/
theorem decode_eq_error (distinct : row.names.Nodup) (stored : column.storage = .ok storage)
    {fault : ColumnFault} :
    row.decode column.name storage = .error fault ↔ row.Refuses column fault := by
  constructor
  · -- Under the name there is nothing, or content with another type or another shape.
    intro refused
    cases cell : row.cell? column.name with
    | none =>
      simp only [decode, cell, Except.error.injEq] at refused
      exact refused ▸ .absent (cell?_eq_none.mp cell)
    | some entry =>
      obtain ⟨type, content⟩ := entry
      have held := (cell?_eq_some distinct).mp cell
      by_cases present : content = .null
      · simp [decode, cell, present] at refused
      · rw [decode_present cell present] at refused
        split at refused
        · split at refused
          · cases refused
          · rename_i unread
            exact Except.error.inj refused ▸ .mismatched stored held present (.inr unread)
        · rename_i unfit
          exact Except.error.inj refused ▸ .mismatched stored held present (.inl unfit)
  -- Content is refused by its type already, or when it is decoded.
  · intro refuses
    cases refuses with
    | absent missing => simp only [decode, cell?_eq_none.mpr missing]
    | mismatched again held present unfit =>
      cases stored.symm.trans again
      rw [decode_present ((cell?_eq_some distinct).mpr held) present]
      rcases unfit with unfit | unread
      · rw [if_neg unfit]
      · rw [unread]
        exact ite_self _

end Decoding

/-- The value that a row gives for a column, or the failure to read the row for want of it. -/
def value (table : String) (row : ResultRow) (column : Column) : Except Failure Value :=
  match column.storage with
  | .error failure => .error failure
  | .ok storage =>
    (row.decode column.name storage).mapError fun fault => .rowScan table column.name fault.message

section Reading

variable {table : String} {row other : ResultRow} {columns : List Column} {column : Column}

/-- There is a value for a column with a type exactly if the row can be decoded there. -/
theorem value_eq_ok {storage : StorageType} (stored : column.storage = .ok storage) {found : Value} :
    row.value table column = .ok found ↔ row.decode column.name storage = .ok found := by
  -- The type of the column is known, so that only the decoding is left.
  unfold value
  rw [stored]
  cases decoded : row.decode column.name storage <;> simp [decoded, Except.mapError]

/-- For a column with a type the row cannot be read exactly if it cannot be decoded there. -/
theorem value_eq_error {storage : StorageType} (stored : column.storage = .ok storage)
    {failure : Failure} :
    row.value table column = .error failure ↔
      ∃ fault, row.decode column.name storage = .error fault ∧
        failure = .rowScan table column.name fault.message := by
  -- The type of the column is known, so that only the decoding is left.
  unfold value
  rw [stored]
  cases decoded : row.decode column.name storage <;> simp [decoded, Except.mapError, eq_comm]

/-- In a row with distinct names there is a value for a column exactly if the row gives it. -/
theorem value_eq_ok_iff_gives (distinct : row.names.Nodup)
    (typed : ∃ storage, column.storage = .ok storage) {found : Value} :
    row.value table column = .ok found ↔ row.Gives column found := by
  obtain ⟨storage, stored⟩ := typed
  exact (value_eq_ok stored).trans (decode_eq_ok distinct stored)

/-- A row with distinct names cannot be read exactly for what it refuses the column for. -/
theorem value_eq_error_iff_refuses (distinct : row.names.Nodup)
    (typed : ∃ storage, column.storage = .ok storage) {failure : Failure} :
    row.value table column = .error failure ↔
      ∃ fault, row.Refuses column fault ∧ failure = .rowScan table column.name fault.message := by
  -- A column that has a type is refused as its cell is.
  obtain ⟨storage, stored⟩ := typed
  rw [value_eq_error stored]
  exact exists_congr fun fault => and_congr_left' (decode_eq_error distinct stored)

/-- A row is read column by column, and the value of each is set under the name of its field. -/
theorem fill_eq (table : String) (row : ResultRow) (columns : List Column) (record : Record) :
    fill table row record columns =
      (columns.mapM (row.value table)).map fun _ =>
        Record.setColumns record columns fun column => (row.value table column).toOption.getD .null := by
  -- The columns behind one without a value are not come to.
  induction columns generalizing record with
  | nil => rfl
  | cons column rest ih =>
    -- A column is decoded, and what is found is set under its field before the next one is read.
    have step : fill table row record (column :: rest) =
        (row.value table column).bind fun found =>
          fill table row (record.insert column.field found) rest := by
      rw [fill, value]
      cases column.storage with
      | error failure => rfl
      | ok storage =>
        dsimp only
        cases row.decode column.name storage <;> rfl
    rw [step, List.mapM_cons]
    cases given : row.value table column with
    | error failure => rfl
    | ok found =>
      show fill table row (record.insert column.field found) rest = _
      rw [ih]
      simp only [Record.setColumns, List.foldl_cons, given]
      cases rest.mapM (row.value table) <;> rfl

/-- Rows in which the same is found under the names of the columns have the same record, or fail alike. -/
theorem fill_congr (same : ∀ column ∈ columns, other.cell? column.name = row.cell? column.name)
    (table : String) (record : Record) :
    fill table other record columns = fill table row record columns := by
  -- The record varies in the induction, for each column that is read has added to it.
  induction columns generalizing record with
  | nil => rfl
  | cons column rest ih =>
    obtain ⟨head, tail⟩ := List.forall_mem_cons.mp same
    simp only [fill, decode_congr head, ih tail]

variable (distinct : row.names.Nodup)
variable (typed : ∀ column ∈ columns, ∃ storage, column.storage = .ok storage)

include distinct typed in
/-- A row has a record exactly if it gives a value for each column, and these are what the record holds. -/
theorem toRecord_eq_ok (fields : (columns.map (·.field)).Nodup) {record : Record} :
    toRecord table columns row = .ok record ↔
      record.names.Perm (columns.map (·.field)) ∧
        ∀ column ∈ columns, ∃ found,
          row.Gives column found ∧ record.get? column.field = some found := by
  -- The values are given one by one, and set under fields of which no two are the same.
  have given : (∃ values, columns.mapM (row.value table) = .ok values) ↔
      ∀ column ∈ columns, ∃ found, row.Gives column found := by
    rw [exists_mapM_eq_ok]
    exact forall₂_congr fun column member => exists_congr fun found =>
      value_eq_ok_iff_gives distinct (typed column member)
  rw [toRecord, fill_eq]
  constructor
  · intro made
    cases read : columns.mapM (row.value table) with
    | error failure => simp [read, Except.map] at made
    | ok values =>
      rw [read] at made
      cases made
      refine ⟨(List.perm_ext_iff_of_nodup (Dictionary.nodup_names _) fields).mpr fun field =>
        Record.mem_names_setColumns _, fun column member => ?_⟩
      obtain ⟨found, gives⟩ := given.mp ⟨values, read⟩ column member
      refine ⟨found, gives, ?_⟩
      rw [Record.get?_setColumns_of_mem _ _ fields member,
        (value_eq_ok_iff_gives distinct (typed column member)).mpr gives]
      rfl
  · rintro ⟨names, held⟩
    obtain ⟨values, read⟩ := given.mpr fun column member =>
      (held column member).imp fun found both => both.1
    rw [read]
    -- The record that is read and the one that is given are compared name by name.
    refine congrArg Except.ok (Dictionary.ext_get? fun field => ?_)
    by_cases listed : field ∈ columns.map (·.field)
    · obtain ⟨column, member, rfl⟩ := List.mem_map.mp listed
      obtain ⟨found, gives, holds⟩ := held column member
      rw [Record.get?_setColumns_of_mem _ _ fields member, holds,
        (value_eq_ok_iff_gives distinct (typed column member)).mpr gives]
      rfl
    · -- Neither record has anything under another name.
      have absent : record.get? field = none := Option.not_isSome_iff_eq_none.mp fun there =>
        listed (names.mem_iff.mp (Dictionary.mem_names.mpr there))
      rw [Record.get?_setColumns_other _ _ listed, absent]
      rfl

include distinct typed in
/-- A row has no record exactly for the first column that it refuses. -/
theorem toRecord_eq_error {failure : Failure} :
    toRecord table columns row = .error failure ↔
      ∃ before column behind fault, columns = before ++ column :: behind ∧
        (∀ earlier ∈ before, ∃ found, row.Gives earlier found) ∧ row.Refuses column fault ∧
        failure = .rowScan table column.name fault.message := by
  -- A row fails as the list of its columns does, and a list fails for its first bad item.
  rw [toRecord, fill_eq, map_eq_error, mapM_eq_error]
  constructor
  -- What is decoded or not is turned into what the row gives or refuses, column by column.
  · rintro ⟨before, column, behind, rfl, failed, earlier⟩
    obtain ⟨inFront, there, _⟩ := List.forall_mem_append.mp typed |>.imp id List.forall_mem_cons.mp
    obtain ⟨fault, refuses, rfl⟩ := (value_eq_error_iff_refuses distinct there).mp failed
    refine ⟨before, column, behind, fault, rfl, fun item member => ?_, refuses, rfl⟩
    exact (earlier item member).imp fun found =>
      (value_eq_ok_iff_gives distinct (inFront item member)).mp
  -- And back in the same way.
  · rintro ⟨before, column, behind, fault, rfl, earlier, refuses, rfl⟩
    obtain ⟨inFront, there, _⟩ := List.forall_mem_append.mp typed |>.imp id List.forall_mem_cons.mp
    refine ⟨before, column, behind, rfl,
      (value_eq_error_iff_refuses distinct there).mpr ⟨fault, refuses, rfl⟩, fun item member => ?_⟩
    exact (earlier item member).imp fun found =>
      (value_eq_ok_iff_gives distinct (inFront item member)).mpr

end Reading
end ResultRow

/-- Where the server answers with rows, a query ends as reading them one by one ends. -/
theorem Repository.query_rows {α : Type} (repository : Repository) (reader : RecordReader α)
    {request : Request} {bound : Statement.Bound} {server : Server} (reachable : server.link = .reachable)
    (built : Statement.select repository.table.reference repository.columns request = .ok bound)
    (result : ResultRows) :
    ∃ after, repository.query reader request (.rows result) server =
      Session.ofExcept ((resultRows (.rows result)).mapM
        (ResultRow.read repository.table.name repository.columns reader)) after := by
  -- The reply is what the server sends back, and the rows are read on whatever is left of the server.
  obtain ⟨link, catalog, saved, log⟩ := server
  cases reachable
  rw [query, built]
  exact ⟨_, rfl⟩

/--
Rows are read by the names of their columns. In a row with distinct names only what stands under the names
of the table's columns matters, so neither another order nor further columns change the record or the
failure. A record holds the fields of the columns and no others, each with what the row gives for its
column; there is none, and the row cannot be read, exactly for the first column that the row refuses. A
query that is answered with rows fails exactly as the first row that cannot be read.
-/
theorem Repository.rows_read_by_name (table : Table) {columns : List Column} {types : List StorageType}
    (typed : Column.storages columns = .ok types) {α : Type} (reader : RecordReader α) :
    (∀ row : ResultRow, row.names.Nodup →
      (∀ other : ResultRow, other.names.Nodup →
        (∀ column ∈ columns, ∀ type value,
          ((column.name, type), value) ∈ other.held ↔ ((column.name, type), value) ∈ row.held) →
        other.toRecord table.name columns = row.toRecord table.name columns) ∧
      (∀ (other : ResultRow) added, other.names.Nodup → other.held.Perm (row.held ++ added) →
        (∀ entry ∈ added, ∀ column ∈ columns, entry.1.1 ≠ column.name) →
        other.toRecord table.name columns = row.toRecord table.name columns) ∧
      ((columns.map (·.field)).Nodup → ∀ record,
        row.toRecord table.name columns = .ok record ↔
          record.names.Perm (columns.map (·.field)) ∧
            ∀ column ∈ columns, ∃ value, row.Gives column value ∧
              record.get? column.field = some value) ∧
      ∀ failure,
        (row.toRecord table.name columns = .error failure ↔
          ∃ before column behind fault, columns = before ++ column :: behind ∧
            (∀ earlier ∈ before, ∃ value, row.Gives earlier value) ∧ row.Refuses column fault ∧
            failure = .rowScan table.name column.name fault.message) ∧
        (row.toRecord table.name columns = .error failure →
          row.read table.name columns reader = .error failure)) ∧
    ∀ report request bound (server : Server) result failure, server.link = .reachable →
      Statement.select table.reference columns request = .ok bound →
      ((query ⟨table, columns, report⟩ reader request (.rows result) server).1 = .failed failure ↔
        ∃ before row behind, resultRows (.rows result) = before ++ row :: behind ∧
          row.read table.name columns reader = .error failure ∧
          ∀ earlier ∈ before, ∃ entity, earlier.read table.name columns reader = .ok entity) := by
  have known := Column.storage_ok typed
  refine ⟨fun row distinct => ⟨?_, ?_, ?_, ?_⟩, ?_⟩
  · intro other otherDistinct same
    exact ResultRow.fill_congr
      (fun column member => ResultRow.cell?_congr distinct otherDistinct (same column member)) _ _
  · -- Where the columns are only rearranged and added to, the same stands under every other name.
    intro other added otherDistinct rearranged unnamed
    refine ResultRow.fill_congr (fun column member => ?_) _ _
    exact ResultRow.cell?_congr distinct otherDistinct
      (ResultRow.mem_held_of_perm rearranged fun entry within => unnamed entry within column member)
  · intro fields record
    exact ResultRow.toRecord_eq_ok distinct known fields
  · intro failure
    refine ⟨ResultRow.toRecord_eq_error distinct known, fun failed => ?_⟩
    rw [ResultRow.read, failed]
  · intro report request bound server result failure reachable built
    obtain ⟨after, same⟩ := query_rows ⟨table, columns, report⟩ reader reachable built result
    rw [same, Session.ofExcept_failed, mapM_eq_error]

/-- A layout whose fields and columns have different names. -/
def berthLayout : Layout := [.field ⟨"name", some "id", .text, ⟨true, false, false⟩⟩,
  .field ⟨"lights", some "lit", .boolean, .none⟩]

/-- The columns of the layout. -/
def berthColumns : List Column := [⟨"name", "id", .text, ⟨true, false, false⟩⟩,
  ⟨"lights", "lit", .boolean, .none⟩]

/-- A row as the table was made. -/
def berthRow : ResultRow := ⟨[("id", "text"), ("lit", "bool")], [.text "east", .boolean true]⟩

/-- The row with its columns turned round and another one between them. -/
def turnedBerthRow : ResultRow :=
  ⟨[("lit", "bool"), ("depth", "float8"), ("id", "text")], [.boolean true, .null, .text "east"]⟩

/-- Rows of a table in which the lights are texts; the first berth has none. -/
def describedBerths : ResultRows :=
  ⟨[("lit", "text"), ("id", "text")], [[.null, .text "east"], [.text "dimly", .text "west"]]⟩

/-- The turned row has the record of the row, and where lights are described the second berth fails. -/
theorem rows_read_by_name_berths :
    Repository.prepare (.named "berths") berthLayout = .ok berthColumns ∧
    Column.storages berthColumns = .ok [.text, .boolean] ∧
    turnedBerthRow.toRecord "berths" berthColumns = berthRow.toRecord "berths" berthColumns ∧
    berthRow.toRecord "berths" berthColumns =
      .ok ((Dictionary.empty.insert "name" (.text "east")).insert "lights" (.boolean true)) ∧
    (Repository.query ⟨.named "berths", berthColumns, .empty⟩ (ReadPlan.readout []) .everything
      (.rows describedBerths) (.start .reachable ⟨true, []⟩)).1 =
      .failed (.rowScan "berths" "lit" (ColumnFault.mismatched "lit").message) := by
  have typed : Column.storages berthColumns = .ok [.text, .boolean] := rfl
  obtain ⟨rows, queries⟩ :=
    Repository.rows_read_by_name (.named "berths") typed (ReadPlan.readout [])
  -- The turned row has the columns of the other one, turned round, and the depth.
  have turned := (rows berthRow (by decide)).2.1 turnedBerthRow [(("depth", "float8"), .null)] (by decide)
  have perm : turnedBerthRow.held.Perm (berthRow.held ++ [(("depth", "float8"), .null)]) :=
    List.perm_append_singleton (("id", "text"), Value.text "east")
      [(("lit", "bool"), .boolean true), (("depth", "float8"), .null)]
  obtain ⟨bound, built⟩ : ∃ bound,
    Statement.select (Table.named "berths").reference berthColumns .everything = .ok bound := ⟨_, rfl⟩
  refine ⟨rfl, typed, turned perm (by decide), rfl, ?_⟩
  refine (queries _ _ bound _ _ _ rfl built).mpr ?_
  exact ⟨[_], _, [], rfl, rfl, List.forall_mem_singleton.mpr ⟨_, rfl⟩⟩

end RecordTables
