import RecordTables.Proofs.Server.Creation
import RecordTables.Proofs.Server.Sent
import RecordTables.Proofs.Statement.ChangeReader
import RecordTables.Proofs.Statement.Condition

/-!
The statements of a repository name only columns that its table has, with the types that are declared
for them unless the report says otherwise; and later reconciliations leave it so.
-/

namespace RecordTables

namespace Catalog

variable {catalog : Catalog}

/-- A catalog that has no two columns with one name. -/
def Distinct (catalog : Catalog) : Prop := catalog.columnNames.Nodup

/-- With different names the type that is found for a column is the only one that it has. -/
theorem Distinct.mem_columns (distinct : catalog.Distinct) {name type : String} :
    (name, type) ∈ catalog.columns ↔ catalog.typeOf? name = some type := by
  -- The search stops at the first column with the name, which is the only one.
  unfold typeOf?
  constructor
  · intro member
    rw [find?_of_mem distinct member]
    rfl
  · intro found
    obtain ⟨entry, held, rfl⟩ := Option.map_eq_some_iff.mp found
    have named : entry.1 = name := by simpa using List.find?_some held
    exact named ▸ List.mem_of_find?_eq_some held

end Catalog

namespace Reconciliation

section Plan

variable {catalog : Catalog} {entries : List (Column × StorageType)}

/-- A plan keeps the names of the columns different. -/
theorem planCatalog_distinct (distinct : catalog.Distinct)
    (named : (entries.map fun entry => entry.1.name).Nodup) : (planCatalog catalog entries).Distinct := by
  -- The columns that are appended have different names, and none that was there.
  have names : (planCatalog catalog entries).columnNames =
      catalog.columnNames ++ (missing catalog entries).map fun entry => entry.1.name := by
    simp [planCatalog, Catalog.columnNames, Function.comp_def]
  unfold Catalog.Distinct
  rw [names]
  refine List.nodup_append.mpr ⟨distinct, named.sublist (List.filter_sublist.map _), ?_⟩
  rintro name held _ added rfl
  obtain ⟨entry, member, rfl⟩ := List.mem_map.mp added
  have absent := (List.mem_filter.mp member).2
  rw [Option.isNone_iff_eq_none] at absent
  rw [Catalog.mem_columnNames, absent] at held
  cases held

variable {later : Catalog} (named : (entries.map fun entry => entry.1.name).Nodup)
  (grown : later.Extends (planCatalog catalog entries)) {entry : Column × StorageType}
  (member : entry ∈ entries)

include named grown member

/-- When a plan is done, and ever after, the table has all its columns. -/
theorem mem_columnNames_of_extends : entry.1.name ∈ later.columnNames := by
  -- Of the columns none is missing any more.
  have nothing := missing_of_extends named grown
  have present := List.filter_eq_nil_iff.mp nothing entry member
  rw [Catalog.mem_columnNames]
  cases held : later.typeOf? entry.1.name with
  | none => simp [held] at present
  | some type => rfl

/-- When a plan is done, and ever after, a column that was not found to be of another type has its own. -/
theorem typeOf?_of_extends
    (undrifted : entry.1.name ∉ (entries.filterMap (drift? catalog)).map (·.column)) :
    later.typeOf? entry.1.name = some entry.2.catalogName := by
  -- A column of another type would still be found to be so.
  have unreported : drift? later entry = none := by
    rw [drift?_of_extends named grown member]
    cases drifted : drift? catalog entry with
    | none => rfl
    | some drift =>
      have column : drift.column = entry.1.name := by
        unfold drift? at drifted
        split at drifted
        · split at drifted
          · cases drifted
          · cases drifted
            rfl
        · cases drifted
      refine absurd (List.mem_map.mpr ⟨drift, ?_, column⟩) undrifted
      exact List.mem_filterMap.mpr ⟨entry, member, drifted⟩
  have present := Catalog.mem_columnNames.mp (mem_columnNames_of_extends named grown member)
  obtain ⟨type, held⟩ := Option.isSome_iff_exists.mp present
  rw [held]
  -- The column is there, and with another type it would be reported.
  by_cases same : type = entry.2.catalogName
  · rw [same]
  · simp [drift?, held, same] at unreported

end Plan

/-- However reconciliations end, the names of the columns stay different. -/
theorem Followed.distinct {server later : Server} (followed : Followed server later)
    (idle : server.Idle) (distinct : server.catalog.Distinct) : later.catalog.Distinct := by
  -- The induction is on the reconciliations: each is done as planned or changes nothing.
  induction followed with
  | start => exact distinct
  | again conditions before flattened typed ih =>
    obtain ⟨stillIdle, _⟩ := before.extends_catalog idle
    rcases run_cases flattened typed stillIdle.reachable conditions stillIdle.closed with
      done | ⟨step, mishap, entries, cut⟩
    · rw [done]
      exact planCatalog_distinct ih (nodup_zip flattened typed)
    · rw [cut]
      exact ih

end Reconciliation

namespace Repository

open Session

variable {repository : Repository} {server : Server} {entry : LogEntry}

/-- An insertion sends its statement if it could be built. -/
theorem insert_sent {record : Record} {insertion : Statement.Insertion}
    (built : Statement.insert repository.table.reference repository.columns record = .ok insertion)
    (reply : DataReply) (server : Server) :
    (repository.insert record reply).sent server = server.arriving (.data insertion.sql
      (insertion.params.map fun param => .ofValue (some param.storage) param.value)) := by
  -- The statement is built before anything is sent, and nothing follows it.
  unfold insert
  rw [built]
  exact sent_send_andThen _ _ _ _ (fun _ _ => rfl) server

/-- An insertion names the columns of the repository. -/
theorem insert_names {record : Record} {reply : DataReply}
    (sent : entry ∈ (repository.insert record reply).sent server) :
    Statement.readInsertion? entry.sql = some ⟨repository.table.schema, repository.table.name,
      repository.columns.map (·.name), List.range' 1 repository.columns.length⟩ := by
  -- The statement was built, and its text does not depend on the values.
  obtain ⟨insertion, built, _⟩ := sent_ofExcept_andThen sent
  rw [insert_sent built] at sent
  rw [Server.eq_of_mem_arriving sent]
  unfold Statement.insert at built
  cases params : Statement.typedParams repository.columns record with
  | error failure => simp [params, Except.map] at built
  | ok values =>
    simp only [params, Except.map, Except.ok.injEq] at built
    subst built
    exact Statement.readInsertion?_insertText repository.table repository.columns

/-- A deletion names the key column of the repository. -/
theorem delete_names {key : String} {reply : DataReply}
    (sent : entry ∈ (repository.delete key reply).sent server) :
    Statement.readDelete? entry.sql = some ⟨repository.table.schema, repository.table.name,
      Column.keyName repository.columns⟩ := by
  -- The statement is built of the key column alone.
  rw [delete, sendData, sent_send_andThen _ _ _ _ fun _ _ => rfl] at sent
  rw [Server.eq_of_mem_arriving sent]
  exact Statement.readDelete?_delete repository.table _

/-- A query selects the columns of the repository. -/
theorem query_names {α : Type} {reader : RecordReader α} {request : Request} {reply : DataReply}
    (sent : entry ∈ (repository.query reader request reply).sent server) :
    Statement.readSelect? entry.sql =
      some (Statement.selectText repository.table repository.columns request) := by
  -- Reading the rows sends nothing more, so that the select is the only statement.
  have quiet : ∀ (outcome : Except Failure (List α)) server, (ofExcept outcome server).2 = server := by
    intro outcome server
    cases outcome <;> rfl
  obtain ⟨bound, built, sent⟩ := sent_ofExcept_andThen sent
  rw [sendData, sent_send_andThen _ _ _ _ fun _ _ => quiet _ _] at sent
  rw [Server.eq_of_mem_arriving sent]
  obtain ⟨_, _, text⟩ := Statement.select_ok built
  show Statement.readSelect? bound.sql = _
  rw [text, Statement.readSelect?_sql]

end Repository

/-- The column that a layout declares to be the key is the one that deletions look in. -/
theorem Column.keyName_mem {columns : List Column}
    (keyed : ∃ column ∈ columns, column.constraints.primaryKey = true) :
    ∃ column ∈ columns, Column.keyName columns = column.name := by
  -- The first column that is declared to be a key is taken.
  unfold Column.keyName
  cases found : columns.find? fun column => column.constraints.primaryKey with
  | some column => exact ⟨column, List.mem_of_find?_eq_some found, rfl⟩
  | none =>
    obtain ⟨column, member, primary⟩ := keyed
    exact absurd primary (List.find?_eq_none.mp found column member)

namespace Repository

/--
When a repository has been made, every statement of its calls names only columns that its table has:
insertions and queries those of the repository, and deletions the key that the layout declares. A column
that was not reported to be of another type has just the type declared for it. All this stays so
after any reconciliations, for whatever layouts and however they end.
-/
theorem statements_name_known_columns {α : Type} {table : Table} {layout : Layout} {script : Script}
    {server after later : Server} {repository : Repository} (reader : RecordReader α)
    (distinct : server.catalog.Distinct)
    (done : create table layout script server = (.done repository, after))
    (followed : Reconciliation.Followed after later) :
    (∀ record reply, ∀ entry ∈ (repository.insert record reply).sent later,
      ∃ said, Statement.readInsertion? entry.sql = some said ∧
        said.schema = table.schema ∧ said.table = table.name ∧
        ∀ name ∈ said.columns, name ∈ later.catalog.columnNames) ∧
    (∀ request reply, ∀ entry ∈ (repository.query reader request reply).sent later,
      ∃ said, Statement.readSelect? entry.sql = some said ∧
        said.schema = table.schema ∧ said.table = table.name ∧
        ∀ name ∈ said.columns, name ∈ later.catalog.columnNames) ∧
    ((∃ field ∈ Layout.leaves layout, field.constraints.primaryKey = true) →
      ∀ key reply, ∀ entry ∈ (repository.delete key reply).sent later,
        ∃ said, Statement.readDelete? entry.sql = some said ∧
          said.schema = table.schema ∧ said.table = table.name ∧
          said.column ∈ later.catalog.columnNames) ∧
    ∀ column ∈ repository.columns,
      column.name ∉ repository.report.drifted.map (·.column) →
        ∃ storage, column.storage = .ok storage ∧
          ∀ type, (column.name, type) ∈ later.catalog.columns ↔ type = storage.catalogName := by
  obtain ⟨prepared, rfl, ran⟩ := create_done done
  obtain ⟨flattened, types, typed⟩ := prepare_ok prepared
  -- The repository was made by a plan that was done, and the later catalog extends it.
  obtain ⟨report, rfl⟩ := Reconciliation.run_done flattened typed ran
  obtain ⟨_, grown⟩ := followed.extends_catalog ⟨rfl, rfl⟩
  have named := Reconciliation.nodup_zip flattened typed
  obtain ⟨zipped, storages⟩ := Reconciliation.zip_storages typed
  have known : ∀ column ∈ repository.columns, column.name ∈ later.catalog.columnNames := by
    intro column member
    rw [← zipped] at member
    obtain ⟨entry, within, rfl⟩ := List.mem_map.mp member
    exact Reconciliation.mem_columnNames_of_extends named grown within
  refine ⟨?_, ?_, ?_, ?_⟩
  · -- An insertion names all columns.
    intro record reply entry sent
    refine ⟨_, insert_names sent, rfl, rfl, ?_⟩
    intro name listed
    obtain ⟨column, member, rfl⟩ := List.mem_map.mp listed
    exact known column member
  · -- So does a query.
    intro request reply entry sent
    refine ⟨_, query_names sent, rfl, rfl, ?_⟩
    intro name listed
    obtain ⟨column, member, rfl⟩ := List.mem_map.mp listed
    exact known column member
  · -- The key that a deletion looks in is declared in the layout, and so it is one of the columns.
    rintro ⟨field, declared, primary⟩ key reply entry sent
    refine ⟨_, delete_names sent, rfl, rfl, ?_⟩
    rw [← Layout.map_toField_columns flattened] at declared
    obtain ⟨stored, member, rfl⟩ := List.mem_map.mp declared
    obtain ⟨column, keyed, same⟩ := Column.keyName_mem ⟨stored, member, primary⟩
    rw [same]
    exact known column keyed
  · -- What was not found to be of another type had its own type or was added with it.
    intro column member undrifted
    rw [← zipped] at member
    obtain ⟨entry, within, rfl⟩ := List.mem_map.mp member
    refine ⟨entry.2, storages entry within, ?_⟩
    intro type
    have drifted : repository.report.drifted = _ :=
      congrArg Report.drifted (report.trans (Reconciliation.planReport_eq _ _ _))
    rw [drifted] at undrifted
    have held := Reconciliation.typeOf?_of_extends named grown within undrifted
    have stillDistinct := followed.distinct ⟨rfl, rfl⟩
      (Reconciliation.planCatalog_distinct distinct named)
    rw [stillDistinct.mem_columns, held, Option.some.injEq]
    exact eq_comm

/-- A layout with its key, a column that is there with another type, and one that is missing. -/
def millLayout : Layout := [.field ⟨"name", some "id", .text, ⟨true, false, false⟩⟩,
  .group "place" [.field ⟨"river", some "stream", .text, .none⟩],
  .field ⟨"wheels", some "wheels", .signed 32, .none⟩]

/-- The columns of the layout. -/
def millColumns : List Column := [⟨"name", "id", .text, ⟨true, false, false⟩⟩,
  ⟨"river", "stream", .text, .none⟩, ⟨"wheels", "wheels", .signed 32, .none⟩]

/-- Another layout of the same table, which takes the stream for a number. -/
def leatLayout : Layout := [.field ⟨"stream", some "stream", .signed 32, .none⟩,
  .field ⟨"fall", some "fall", .floating 64, .none⟩]

/-- A server that has the mills with a column of their own. -/
def millServer : Server := .start .reachable ⟨true, [("wheels", "int8"), ("old", "bytea")]⟩

/-- The types of the columns. -/
def millTypes : List StorageType := [.text, .text, .integer]

/-- The repository of the mills. -/
def millRepository : Repository := ⟨.named "mills", millColumns,
  Reconciliation.planReport (.named "mills") millServer.catalog (millColumns.zip millTypes)⟩

/-- The server once the mills are ready. -/
def readyMills : Server :=
  ⟨.reachable, ⟨true, [("wheels", "int8"), ("old", "bytea"), ("id", "text"), ("stream", "text")]⟩, none,
    Step.log (Reconciliation.steps (.named "mills") millServer.catalog (millColumns.zip millTypes))⟩

/-- The server after the other layout: stopped at first where it adds a column, and then done. -/
def laterMills : Server :=
  (create (.named "mills") leatLayout []
    (create (.named "mills") leatLayout [(.add "fall", .hang)] readyMills).2).2

/-- The record of a mill. -/
def millRecord : Record := ((Dictionary.empty.insert "name" (.text "lower")).insert "river" .null).insert
  "wheels" .null

/-- The mills are inserted into columns that are all still there, and the stream has kept its type. -/
theorem statements_name_known_columns_mills :
    create (.named "mills") millLayout [] millServer = (.done millRepository, readyMills) ∧
    millRepository.report.drifted = [⟨"wheels", .integer, "int8"⟩] ∧
    Reconciliation.Followed readyMills laterMills ∧
    (∃ entry ∈ (millRepository.insert millRecord (.affected 1)).sent laterMills,
      ∃ said, Statement.readInsertion? entry.sql = some said ∧
        said.schema = none ∧ said.table = "mills" ∧
        ∀ name ∈ said.columns, name ∈ laterMills.catalog.columnNames) ∧
    ∀ type, ("stream", type) ∈ laterMills.catalog.columns ↔ type = "text" := by
  have prepared : prepare (.named "mills") millLayout = .ok millColumns := rfl
  have typed : Column.storages millColumns = .ok millTypes := rfl
  have spared : ∀ step ∈ Reconciliation.steps (.named "mills") millServer.catalog
      (millColumns.zip millTypes), Session.Spared [] step :=
    (Session.spared_iff _ _).mpr fun _ impossible => absurd impossible List.not_mem_nil
  have done : create (.named "mills") millLayout [] millServer = (.done millRepository, readyMills) :=
    create_spared prepared typed rfl spared
  -- Two more reconciliations come after the one that made the repository.
  have followed : Reconciliation.Followed readyMills laterMills :=
    (Reconciliation.Followed.start.create _ _ _).create _ _ _
  have distinct : millServer.catalog.columnNames.Nodup := by decide
  obtain ⟨inserting, _, _, types⟩ :=
    statements_name_known_columns (ReadPlan.readout []) distinct done followed
  refine ⟨done, rfl, followed, ?_, ?_⟩
  · -- The later server can still be reached, so the statement arrives.
    have arrives : laterMills.link = .reachable := (followed.extends_catalog ⟨rfl, rfl⟩).1.reachable
    obtain ⟨insertion, built⟩ : ∃ insertion, Statement.insert millRepository.table.reference
        millRepository.columns millRecord = .ok insertion := ⟨_, rfl⟩
    have sent := insert_sent built (.affected 1) laterMills
    rw [Server.arriving, arrives] at sent
    have member := List.mem_of_mem_head? (congrArg List.head? sent)
    exact ⟨_, member, inserting millRecord (.affected 1) _ member⟩
  · obtain ⟨storage, stored, only⟩ := types ⟨"river", "stream", .text, .none⟩ (by decide) (by decide)
    cases stored
    exact only

end Repository

end RecordTables
