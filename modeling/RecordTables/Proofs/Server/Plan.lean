import RecordTables.Proofs.Column.Layout
import RecordTables.Proofs.Server.Steps
import RecordTables.Proofs.Statement.AddedColumn
import RecordTables.Server.Reconciliation

/-! The plan of a reconciliation, which the catalog at its start settles, and that a reconciliation carries it out. -/

namespace RecordTables

namespace Reconciliation

open Session

section Plan

variable (table : Table) (catalog : Catalog)

/-- The statement that begins the transaction. -/
def beginStep : Step :=
  ⟨"begin reconciliation", .migration table.name, .begin, .begin, rfl⟩

/-- The statement that takes the advisory lock. -/
def lockStep : Step :=
  ⟨"advisory lock", .migration table.name, .lock table.reference, .lock, rfl⟩

/-- The statement that looks for the table. -/
def tableCheckStep : Step :=
  ⟨"table check", .tableCheck table.name, .tableCheck table.name table.schema, .tableCheck, rfl⟩

/-- The statement that creates the table. -/
def createStep : Step :=
  ⟨"create table", .tableCreation table.name, .createTable (Statement.createTable table), .create, rfl⟩

/-- The statement that looks for a column. -/
def columnCheckStep (column : Column) : Step :=
  ⟨"column check", .columnCheck table.name column.name,
    .columnCheck table.name table.schema column.name, .columnCheck column.name, rfl⟩

/-- The statement that adds a column. -/
def addStep (column : Column) (storage : StorageType) : Step :=
  ⟨"add column", .columnAddition table.name column.name,
    .addColumn column.name (Statement.addColumn table column storage), .add column.name, rfl⟩

/-- The statement that commits the transaction. -/
def commitStep : Step :=
  ⟨"commit reconciliation", .migration table.name, .commit, .commit, rfl⟩

/-- The lock is taken if the table asks for it. -/
def lockSteps : List Step := if table.advisoryLock then [lockStep table] else []

/-- The table is created if it is missing. -/
def tableSteps : List Step :=
  if catalog.tableExists then [tableCheckStep table] else [tableCheckStep table, createStep table]

/-- A column is added if it is missing. -/
def columnSteps (entry : Column × StorageType) : List Step :=
  if (catalog.typeOf? entry.1.name).isSome then [columnCheckStep table entry.1]
  else [columnCheckStep table entry.1, addStep table entry.1 entry.2]

/-- The statements between the beginning and the end of the transaction. -/
def innerSteps (entries : List (Column × StorageType)) : List Step :=
  lockSteps table ++ tableSteps table catalog ++ entries.flatMap (columnSteps table catalog)

/-- The statements of a reconciliation, from what the catalog holds when it begins. -/
def steps (entries : List (Column × StorageType)) : List Step :=
  beginStep table :: innerSteps table catalog entries ++ [commitStep table]

/-- What holds of the five kinds of statements inside the transaction holds of all of them. -/
theorem forall_innerSteps {holds : Step → Prop} (locks : holds (lockStep table))
    (looks : holds (tableCheckStep table)) (creates : holds (createStep table))
    (checks : ∀ column, holds (columnCheckStep table column))
    (adds : ∀ column storage, holds (addStep table column storage))
    (entries : List (Column × StorageType)) : ∀ step ∈ innerSteps table catalog entries, holds step := by
  -- The statements are those of the lock, those of the table, and those of each column.
  have locked : ∀ step ∈ lockSteps table, holds step := by
    unfold lockSteps
    split <;> simp [locks]
  have tabled : ∀ step ∈ tableSteps table catalog, holds step := by
    unfold tableSteps
    split <;> simp [looks, creates]
  have columned : ∀ entry, ∀ step ∈ columnSteps table catalog entry, holds step := by
    intro entry
    unfold columnSteps
    split <;> simp [checks, adds]
  intro step member
  simp only [innerSteps, List.mem_append, List.mem_flatMap] at member
  rcases member with (member | member) | ⟨entry, _, member⟩
  · exact locked step member
  · exact tabled step member
  · exact columned entry step member

/-- The columns that are missing in the catalog. -/
def missing (entries : List (Column × StorageType)) : List (Column × StorageType) :=
  entries.filter fun entry => (catalog.typeOf? entry.1.name).isNone

/-- What there is to report of a column that the catalog has with another type. -/
def drift? (entry : Column × StorageType) : Option Drift :=
  match catalog.typeOf? entry.1.name with
  | some actual =>
    if actual = entry.2.catalogName then none else some ⟨entry.1.name, entry.2, actual⟩
  | none => none

/-- The report with what is done and found for some columns. -/
def columnsReport (entries : List (Column × StorageType)) (report : Report) : Report :=
  ⟨report.tableCreated, report.added ++ (missing catalog entries).map fun entry => entry.1.name,
    report.drifted ++ entries.filterMap (drift? catalog),
    report.statements ++ (missing catalog entries).map fun entry =>
      Statement.addColumn table entry.1 entry.2⟩

/-- The report with what is done for the table. -/
def tableReport (report : Report) : Report :=
  if catalog.tableExists then report else report.create (Statement.createTable table)

/-- What a reconciliation reports if it is not cut short. -/
def planReport (entries : List (Column × StorageType)) : Report :=
  columnsReport table catalog entries (tableReport table catalog .empty)

/-- The catalog that a reconciliation leaves if it is not cut short. -/
def planCatalog (entries : List (Column × StorageType)) : Catalog :=
  ⟨true, catalog.columns ++
    (missing catalog entries).map fun entry => (entry.1.name, entry.2.catalogName)⟩

end Plan

/-- The types of columns belong to them in order. -/
theorem zip_storages {columns : List Column} {types : List StorageType}
    (typed : Column.storages columns = .ok types) :
    (columns.zip types).map Prod.fst = columns ∧
      ∀ entry ∈ columns.zip types, entry.1.storage = .ok entry.2 := by
  -- The types are found column by column, each for the column in its place.
  unfold Column.storages at typed
  induction columns generalizing types with
  | nil => exact ⟨rfl, fun _ impossible => absurd impossible List.not_mem_nil⟩
  | cons column rest ih =>
    obtain ⟨storage, others, head, tail, rfl⟩ := mapM_cons_ok typed
    obtain ⟨names, storages⟩ := ih tail
    exact ⟨by simp [names], List.forall_mem_cons.mpr ⟨head, storages⟩⟩

/-- The columns of a layout have different names also where they stand with their types. -/
theorem nodup_zip {layout : Layout} {columns : List Column} {types : List StorageType}
    (flattened : layout.columns = .ok columns) (typed : Column.storages columns = .ok types) :
    ((columns.zip types).map fun entry => entry.1.name).Nodup := by
  -- The entries have the names of the columns, which the layout keeps apart.
  have distinct := Layout.columns_nodup flattened
  rw [← (zip_storages typed).1, List.map_map] at distinct
  exact distinct

/-- Opening a transaction changes nothing in the catalog. -/
theorem acceptAll_openingSteps (server : Server) (table : Table) :
    (server.acceptAll (beginStep table :: lockSteps table)).catalog = server.catalog := by
  -- The beginning keeps a copy of the catalog, and the lock does nothing to it.
  unfold lockSteps
  cases table.advisoryLock <;> rfl

/-- Creating a table changes nothing but its existence. -/
theorem acceptAll_tableSteps (server : Server) (table : Table) :
    (server.acceptAll (tableSteps table server.catalog)).catalog =
      { server.catalog with tableExists := true } := by
  -- Only the creation does anything, and it does nothing to the columns.
  obtain ⟨link, ⟨present, columns⟩, saved, log⟩ := server
  cases present <;> rfl

/-- A missing column is appended with its type. -/
theorem accept_addStep (server : Server) (table : Table) (column : Column) (storage : StorageType) :
    (server.accept (addStep table column storage)).catalog =
      { server.catalog with columns :=
        server.catalog.columns ++ [(column.name, storage.catalogName)] } := by
  -- The server reads the type from the text, where it stands as declared.
  rw [← Statement.addedType_addColumn table column storage]
  rfl

/-- The columns that are missing are appended with their types, and nothing else changes. -/
theorem acceptAll_columnSteps (server : Server) (table : Table) (catalog : Catalog)
    (entries : List (Column × StorageType)) :
    (server.acceptAll (entries.flatMap (columnSteps table catalog))).catalog =
      { server.catalog with columns := server.catalog.columns ++
        (missing catalog entries).map fun entry => (entry.1.name, entry.2.catalogName) } := by
  -- The induction is on the columns; each adds at most its own entry at the end.
  induction entries generalizing server with
  | nil => simp [Server.acceptAll, missing]
  | cons entry rest ih =>
    rw [List.flatMap_cons, Server.acceptAll_append, ih]
    -- Looking for the column changes nothing, so only a statement that adds it counts.
    cases found : catalog.typeOf? entry.1.name with
    | some type =>
      have checked : (server.acceptAll (columnSteps table catalog entry)).catalog = server.catalog := by
        simp only [columnSteps, found, Option.isSome_some, if_true]
        rfl
      simp [checked, missing, found]
    | none =>
      have added : (server.acceptAll (columnSteps table catalog entry)).catalog =
          { server.catalog with columns :=
            server.catalog.columns ++ [(entry.1.name, entry.2.catalogName)] } := by
        simp only [columnSteps, found, Option.isSome_none, Bool.false_eq_true, if_false]
        exact accept_addStep (server.accept (columnCheckStep table entry.1)) table entry.1 entry.2
      simp [added, missing, found]

/-- Columns appended to a catalog leave the types of all other columns as they are. -/
theorem typeOf?_append {catalog : Catalog} {column type name : String} (different : name ≠ column) :
    Catalog.typeOf? { catalog with columns := catalog.columns ++ [(column, type)] } name =
      catalog.typeOf? name := by
  -- An entry at the end with another name is passed over.
  have other : (column == name) = false := beq_eq_false_iff_ne.mpr different.symm
  simp [Catalog.typeOf?, List.find?_append, other]

/-- What is done about a column leaves the types of all other columns as they are. -/
theorem typeOf?_acceptAll_columnSteps {server : Server} {table : Table} {catalog : Catalog}
    {entry : Column × StorageType} {name : String} (different : name ≠ entry.1.name) :
    (server.acceptAll (columnSteps table catalog entry)).catalog.typeOf? name =
      server.catalog.typeOf? name := by
  -- At most an entry with the name of the column itself is appended.
  have catalogs := acceptAll_columnSteps server table catalog [entry]
  rw [List.flatMap_singleton] at catalogs
  rw [catalogs]
  cases found : catalog.typeOf? entry.1.name with
  | some type => simp [missing, found]
  | none => simpa [missing, found] using typeOf?_append different

/-- What is reported of some columns is reported of the first and then of the others. -/
theorem columnsReport_cons (table : Table) (catalog : Catalog) (entry : Column × StorageType)
    (rest : List (Column × StorageType)) (report : Report) :
    columnsReport table catalog rest (columnsReport table catalog [entry] report) =
      columnsReport table catalog (entry :: rest) report := by
  -- A column adds its part at the end of each list, before those of the others.
  unfold columnsReport missing
  cases found : catalog.typeOf? entry.1.name with
  | some type =>
    cases drifted : drift? catalog entry <;> simp [found, drifted]
  | none =>
    simp [found, drift?]

/-- The report of a plan says what is missing and what has another type. -/
theorem planReport_eq (table : Table) (catalog : Catalog) (entries : List (Column × StorageType)) :
    planReport table catalog entries =
      ⟨!catalog.tableExists, (missing catalog entries).map fun entry => entry.1.name,
        entries.filterMap (drift? catalog),
        (if catalog.tableExists then [] else [Statement.createTable table]) ++
          (missing catalog entries).map fun entry => Statement.addColumn table entry.1 entry.2⟩ := by
  -- The table comes first, with a statement only when it is created.
  unfold planReport tableReport
  cases catalog.tableExists <;> rfl

/-- All statements together leave the catalog as planned, and the transaction closed. -/
theorem acceptAll_steps (server : Server) (table : Table) (entries : List (Column × StorageType)) :
    server.acceptAll (steps table server.catalog entries) =
      ⟨server.link, planCatalog server.catalog entries, none,
        server.log ++ Step.log (steps table server.catalog entries)⟩ := by
  -- The link and the log are as for all plans; the catalog and the transaction follow the parts of this one.
  have link := Server.acceptAll_link server (steps table server.catalog entries)
  have log := Server.acceptAll_log server (steps table server.catalog entries)
  have catalog : (server.acceptAll (steps table server.catalog entries)).catalog =
      planCatalog server.catalog entries := by
    let opened := server.acceptAll (beginStep table :: lockSteps table)
    have openedCatalog : opened.catalog = server.catalog := acceptAll_openingSteps server table
    have split : steps table server.catalog entries =
        (beginStep table :: lockSteps table) ++ (tableSteps table opened.catalog ++
          entries.flatMap (columnSteps table server.catalog)) ++ [commitStep table] := by
      simp [steps, innerSteps, openedCatalog]
    -- The opening leaves the catalog alone, the table comes first and the columns after it.
    calc (server.acceptAll (steps table server.catalog entries)).catalog
        = ((opened.acceptAll (tableSteps table opened.catalog)).acceptAll
            (entries.flatMap (columnSteps table server.catalog))).catalog := by
          rw [split, Server.acceptAll_append, Server.acceptAll_append, Server.acceptAll_append]
          rfl
      _ = planCatalog server.catalog entries := by
          rw [acceptAll_columnSteps, acceptAll_tableSteps, openedCatalog]
          rfl
  have saved : (server.acceptAll (steps table server.catalog entries)).saved = none := by
    rw [steps, Server.acceptAll_append]
    rfl
  rw [← link, ← catalog, ← saved, ← log]

section Simulation

variable {conditions : Conditions} {server : Server}

/-- The beginning is the beginning of the plan. -/
theorem begin_eq (conditions : Conditions) :
    begin conditions =
      carryOut conditions (beginStep conditions.table :: lockSteps conditions.table) := by
  -- With and without the lock the same statements are sent.
  unfold begin lockSteps
  cases locked : conditions.table.advisoryLock with
  | true =>
    simp only [locked, if_true]
    rfl
  | false =>
    simp only [locked, Bool.false_eq_true, if_false]
    rfl

/-- The table is looked for and created as planned. -/
theorem ensureTable_eq (reachable : server.link = .reachable) (report : Report) :
    ensureTable conditions report server =
      (carryOut conditions (tableSteps conditions.table server.catalog)).andThen
        (fun _ => result (tableReport conditions.table server.catalog report)) server := by
  -- What follows the check depends on its answer alone, and the answer is that of the catalog.
  have answered : server.answer (tableCheckStep conditions.table) =
      .truth server.catalog.tableExists := rfl
  unfold ensureTable tableSteps tableReport
  cases present : server.catalog.tableExists with
  | true =>
    simp only [if_true]
    rw [carryOut_cons_andThen]
    refine send_andThen_congr (tableCheckStep conditions.table) reachable ?_
    rw [answered, present]
    rfl
  | false =>
    simp only [Bool.false_eq_true, if_false]
    rw [carryOut_cons_andThen]
    refine send_andThen_congr (tableCheckStep conditions.table) reachable ?_
    rw [answered, present, carryOut_cons_andThen]
    rfl

/-- A column is looked for and added as planned, if the catalog still holds of it what it held. -/
theorem ensureColumn_eq (reachable : server.link = .reachable) {catalog : Catalog}
    {entry : Column × StorageType} (typed : entry.1.storage = .ok entry.2)
    (agree : server.catalog.typeOf? entry.1.name = catalog.typeOf? entry.1.name) (report : Report) :
    ensureColumn conditions report entry.1 server =
      (carryOut conditions (columnSteps conditions.table catalog entry)).andThen
        (fun _ => result (columnsReport conditions.table catalog [entry] report)) server := by
  -- What follows the check depends on its answer alone, and the answer is that of the starting catalog.
  have answered : server.answer (columnCheckStep conditions.table entry.1) =
      .type (catalog.typeOf? entry.1.name) := congrArg Reply.type agree
  unfold ensureColumn
  rw [typed]
  show (send conditions _ _ _).andThen _ server = _
  cases found : catalog.typeOf? entry.1.name with
  | some actual =>
    simp only [columnSteps, found, Option.isSome_some, if_true]
    rw [carryOut_cons_andThen]
    refine send_andThen_congr (columnCheckStep conditions.table entry.1) reachable ?_
    rw [answered, found]
    -- A column that is there is left as it is, and reported if it has another type.
    by_cases same : actual = entry.2.catalogName
    · simp [columnsReport, missing, drift?, found, same, andThen, carryOut, result]
    · simp [columnsReport, missing, drift?, found, same, andThen, carryOut, result, Report.drift]
  | none =>
    simp only [columnSteps, found, Option.isSome_none, Bool.false_eq_true, if_false]
    rw [carryOut_cons_andThen]
    refine send_andThen_congr (columnCheckStep conditions.table entry.1) reachable ?_
    rw [answered, found, carryOut_cons_andThen]
    -- A column that is missing is added and reported so.
    have reported : columnsReport conditions.table catalog [entry] report =
        report.add entry.1.name (Statement.addColumn conditions.table entry.1 entry.2) := by
      simp [columnsReport, missing, drift?, found, Report.add]
    rw [reported]
    rfl

/-- All columns are looked for and added as planned, if the catalog still holds of them what it held. -/
theorem ensureColumns_eq (reachable : server.link = .reachable) {catalog : Catalog}
    {entries : List (Column × StorageType)}
    (typed : ∀ entry ∈ entries, entry.1.storage = .ok entry.2)
    (distinct : (entries.map fun entry => entry.1.name).Nodup)
    (agree : ∀ entry ∈ entries,
      server.catalog.typeOf? entry.1.name = catalog.typeOf? entry.1.name) (report : Report) :
    ensureColumns conditions report (entries.map Prod.fst) server =
      (carryOut conditions (entries.flatMap (columnSteps conditions.table catalog))).andThen
        (fun _ => result (columnsReport conditions.table catalog entries report)) server := by
  -- What is done about a column is not seen by those after it, as their names are others.
  induction entries generalizing server report with
  | nil => simp [ensureColumns, carryOut, andThen, result, columnsReport, missing]
  | cons entry rest ih =>
    obtain ⟨headTyped, restTyped⟩ := List.forall_mem_cons.mp typed
    obtain ⟨headAgrees, restAgrees⟩ := List.forall_mem_cons.mp agree
    obtain ⟨apart, restDistinct⟩ := List.nodup_cons.mp distinct
    rw [List.map_cons, ensureColumns, List.flatMap_cons, carryOut_append, andThen_assoc,
      andThen_congr_left (ensureColumn_eq reachable headTyped headAgrees report), andThen_assoc]
    refine andThen_congr ?_
    intro value after done
    have reached := carryOut_done reachable done
    have linked : after.link = .reachable := by
      rw [reached, Server.acceptAll_link]
      exact reachable
    -- The step before has added its own column at most.
    have agrees : ∀ later ∈ rest,
        after.catalog.typeOf? later.1.name = catalog.typeOf? later.1.name := by
      intro later member
      have different : later.1.name ≠ entry.1.name :=
        fun same => apart (List.mem_map.mpr ⟨later, member, same⟩)
      rw [reached, typeOf?_acceptAll_columnSteps different]
      exact restAgrees later member
    rw [← columnsReport_cons conditions.table catalog entry rest report]
    exact ih linked restTyped restDistinct agrees _

/-- A reconciliation carries out its plan, and gives up what the plan leaves open. -/
theorem run_eq (reachable : server.link = .reachable) {columns : List Column}
    {types : List StorageType} (distinct : (columns.map (·.name)).Nodup)
    (typed : Column.storages columns = .ok types) :
    run conditions columns server =
      rollbackOpen ((carryOut conditions
        (steps conditions.table server.catalog (columns.zip types))).andThen
          fun _ => result (planReport conditions.table server.catalog (columns.zip types))) server := by
  -- Each part is replaced by its share of the plan, on the server that the shares before it have left.
  obtain ⟨names, storages⟩ := zip_storages typed
  have entriesDistinct : ((columns.zip types).map fun entry => entry.1.name).Nodup := by
    rw [← names, List.map_map] at distinct
    exact distinct
  have planned : steps conditions.table server.catalog (columns.zip types) =
      (beginStep conditions.table :: lockSteps conditions.table) ++
        (tableSteps conditions.table server.catalog ++
          ((columns.zip types).flatMap (columnSteps conditions.table server.catalog) ++
            [commitStep conditions.table])) := by
    simp [steps, innerSteps]
  refine rollbackOpen_congr ?_
  rw [begin_eq, planned, carryOut_append, andThen_assoc]
  refine andThen_congr ?_
  intro _ opened begun
  have openedEq := carryOut_done reachable begun
  have openedLink : opened.link = .reachable := by
    rw [openedEq, Server.acceptAll_link]
    exact reachable
  have openedCatalog : opened.catalog = server.catalog := by
    rw [openedEq, acceptAll_openingSteps]
  -- The table is ensured in the opened transaction, whose catalog is still that of the start.
  rw [andThen_congr_left (ensureTable_eq openedLink .empty), openedCatalog, carryOut_append,
    andThen_assoc, andThen_assoc]
  refine andThen_congr ?_
  intro _ ready made
  have readyEq := carryOut_done openedLink made
  have readyLink : ready.link = .reachable := by
    rw [readyEq, Server.acceptAll_link]
    exact openedLink
  -- The creation of the table is not seen by the columns.
  have readyTypes : ∀ name, ready.catalog.typeOf? name = server.catalog.typeOf? name := by
    intro name
    rw [readyEq, ← openedCatalog, acceptAll_tableSteps]
    rfl
  have columnsEq : ensureColumns conditions (tableReport conditions.table server.catalog .empty)
      ((columns.zip types).map Prod.fst) ready = _ :=
    ensureColumns_eq readyLink storages entriesDistinct (fun entry _ => readyTypes entry.1.name) _
  rw [names] at columnsEq
  show (ensureColumns conditions _ columns).andThen _ ready = _
  -- What is left of the plan is the commit.
  rw [andThen_congr_left columnsEq, carryOut_append, andThen_assoc, andThen_assoc,
    carryOut_cons_andThen]
  rfl

end Simulation

end Reconciliation

end RecordTables
