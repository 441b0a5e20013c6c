import RecordTables.Proofs.Server.Outcome

/-! A reconciliation adds what is missing, reports exactly that, and leaves everything else as it is. -/

namespace RecordTables

/-- The words that statements begin with that create a table or add a column. -/
def Statement.definitionWords : List String := ["CREATE TABLE ", "ALTER TABLE "]

/-- Whether a statement creates a table or adds a column. -/
def Statement.isDefinition (sql : String) : Bool :=
  definitionWords.any fun word => (after? word sql.toList).isSome

/-- The texts of the statements in a log that create a table or add a column, in order. -/
def LogEntry.definitions (entries : List LogEntry) : List String :=
  (entries.map (·.sql)).filter Statement.isDefinition

/-- A statement that begins with one of the words is a definition. -/
theorem Statement.isDefinition_append {word : String} (known : word ∈ definitionWords)
    (rest : String) : isDefinition (word ++ rest) = true := by
  -- The word is found where it was put.
  refine List.any_eq_true.mpr ⟨word, known, ?_⟩
  rw [String.toList_append, after?_append]
  rfl

/-- A statement that begins otherwise is not a definition. -/
theorem Statement.isDefinition_other {start : String} (rest : String)
    (apart : ∀ word ∈ definitionWords,
      ¬ word.toList <+: start.toList ∧ ¬ start.toList <+: word.toList) :
    isDefinition (start ++ rest) = false := by
  -- No word is found where neither begins the other.
  refine List.any_eq_false.mpr ?_
  intro word known
  rw [String.toList_append, after?_other rest.toList (apart word known).1 (apart word known).2]
  decide

namespace Reconciliation

open Session

/-- The definitions in two logs in a row are those of both. -/
theorem definitions_append (first second : List LogEntry) :
    LogEntry.definitions (first ++ second) =
      LogEntry.definitions first ++ LogEntry.definitions second := by
  simp [LogEntry.definitions]

/-- Taking the lock defines nothing. -/
theorem definitions_lockSteps (table : Table) : LogEntry.definitions (Step.log (lockSteps table)) = [] := by
  -- The statement that takes the lock starts with no word of definition.
  have locks : Statement.isDefinition (lockStep table).command.logEntry.sql = false := by
    simp only [lockStep, Command.logEntry]
    decide
  unfold lockSteps
  cases table.advisoryLock <;> simp [LogEntry.definitions, Step.log, locks]

/-- The definition of the table is that in the report. -/
theorem definitions_tableSteps (table : Table) (catalog : Catalog) :
    LogEntry.definitions (Step.log (tableSteps table catalog)) =
      (tableReport table catalog .empty).statements := by
  -- Looking for the table defines nothing, and creating it is one definition.
  have checks : Statement.isDefinition (tableCheckStep table).command.logEntry.sql = false :=
    Statement.isDefinition_other _ (by decide)
  have text : (createStep table).command.logEntry.sql = Statement.createTable table := rfl
  have creates : Statement.isDefinition (Statement.createTable table) = true := by
    simp only [Statement.createTable, String.append_assoc]
    exact Statement.isDefinition_append (by decide) _
  unfold tableSteps tableReport
  cases catalog.tableExists with
  | true => simp [LogEntry.definitions, Step.log, checks, Report.empty]
  | false =>
    simp [LogEntry.definitions, Step.log, checks, creates, text, Report.empty, Report.create]

/-- The definitions of the columns are those of the missing ones in order. -/
theorem definitions_columnSteps (table : Table) (catalog : Catalog)
    (entries : List (Column × StorageType)) :
    LogEntry.definitions (Step.log (entries.flatMap (columnSteps table catalog))) =
      (missing catalog entries).map fun entry => Statement.addColumn table entry.1 entry.2 := by
  -- Looking for a column defines nothing, and adding one is one definition.
  have checks : ∀ column,
      Statement.isDefinition (columnCheckStep table column).command.logEntry.sql = false :=
    fun _ => Statement.isDefinition_other _ (by decide)
  have text : ∀ column storage, (addStep table column storage).command.logEntry.sql =
      Statement.addColumn table column storage := fun _ _ => rfl
  have adds : ∀ column storage,
      Statement.isDefinition (Statement.addColumn table column storage) = true := by
    intro column storage
    simp only [Statement.addColumn, String.append_assoc]
    exact Statement.isDefinition_append (by decide) _
  induction entries with
  | nil => rfl
  | cons entry rest ih =>
    have split : Step.log ((entry :: rest).flatMap (columnSteps table catalog)) =
        Step.log (columnSteps table catalog entry) ++
          Step.log (rest.flatMap (columnSteps table catalog)) := by
      simp [Step.log]
    rw [split, definitions_append, ih]
    -- A column that is found is only looked for, and one that is missing is added as well.
    cases found : catalog.typeOf? entry.1.name with
    | some type => simp [columnSteps, found, LogEntry.definitions, Step.log, checks, missing]
    | none =>
      simp [columnSteps, found, LogEntry.definitions, Step.log, checks, adds, text, missing]

/-- The statements of the report are the definitions that are sent inside the transaction. -/
theorem definitions_innerSteps (table : Table) (catalog : Catalog)
    (entries : List (Column × StorageType)) :
    LogEntry.definitions (Step.log (innerSteps table catalog entries)) =
      (planReport table catalog entries).statements := by
  -- The statements inside are those of the lock, the table and the columns.
  have split : Step.log (innerSteps table catalog entries) =
      Step.log (lockSteps table) ++ Step.log (tableSteps table catalog) ++
        Step.log (entries.flatMap (columnSteps table catalog)) := by
    simp [Step.log, innerSteps]
  rw [split, definitions_append, definitions_append, definitions_lockSteps, definitions_tableSteps,
    definitions_columnSteps, List.nil_append]
  rfl

/-- A reconciliation sends what is inside its transaction between the beginning and the commit. -/
theorem log_steps (table : Table) (catalog : Catalog) (entries : List (Column × StorageType)) :
    Step.log (steps table catalog entries) =
      Command.begin.logEntry :: Step.log (innerSteps table catalog entries) ++
        [Command.commit.logEntry] := by
  simp [Step.log, steps, beginStep, commitStep]

/-- The statements of the report are the definitions that a reconciliation sends. -/
theorem definitions_steps (table : Table) (catalog : Catalog)
    (entries : List (Column × StorageType)) :
    LogEntry.definitions (Step.log (steps table catalog entries)) =
      (planReport table catalog entries).statements := by
  -- Neither the beginning nor the commit defines anything.
  have begins : LogEntry.definitions [Command.begin.logEntry] = [] := by decide
  have commits : LogEntry.definitions [Command.commit.logEntry] = [] := by decide
  rw [log_steps, ← List.singleton_append, definitions_append, definitions_append, begins, commits,
    definitions_innerSteps, List.nil_append, List.append_nil]

/-- Nothing is defined exactly when the catalog stays as it is. -/
theorem isNoop_planReport (table : Table) (catalog : Catalog)
    (entries : List (Column × StorageType)) :
    (planReport table catalog entries).isNoop = true ↔ planCatalog catalog entries = catalog := by
  -- Each definition changes the catalog: one makes the table exist, and the others make it longer.
  obtain ⟨present, columns⟩ := catalog
  rw [planReport_eq, Report.isNoop, List.isEmpty_iff, List.append_eq_nil_iff, List.map_eq_nil_iff]
  simp only [planCatalog, Catalog.mk.injEq, List.append_right_eq_self, List.map_eq_nil_iff]
  cases present <;> simp

/--
A reconciliation of which no statement fails creates the table if it is missing, appends the missing
columns with the types declared for them, and leaves every column that is there. All of this is done in
one transaction, which is committed: its beginning and its commit are the first and the last statement
that is sent, and afterwards there is no earlier catalog to go back to. It reports just the columns that
it has added and those of another type, and its statements are the definitions it has sent, so there are
none exactly when the catalog stays as it is.
-/
theorem run_additive {layout : Layout} {columns : List Column} {types : List StorageType}
    {conditions : Conditions} {server : Server} (flattened : layout.columns = .ok columns)
    (typed : Column.storages columns = .ok types) (reachable : server.link = .reachable)
    (spared : ∀ step ∈ steps conditions.table server.catalog (columns.zip types),
      Spared conditions.script step) :
    ∃ report after inside, run conditions columns server = (.done report, after) ∧
      after.saved = none ∧
      after.log = server.log ++
        (Command.begin.logEntry :: inside ++ [Command.commit.logEntry]) ∧
      after.catalog.tableExists = true ∧
      after.catalog.columns = server.catalog.columns ++
        (missing server.catalog (columns.zip types)).map
          (fun entry => (entry.1.name, entry.2.catalogName)) ∧
      report.tableCreated = !server.catalog.tableExists ∧
      report.added = (missing server.catalog (columns.zip types)).map (fun entry => entry.1.name) ∧
      report.drifted = (columns.zip types).filterMap (drift? server.catalog) ∧
      report.statements = LogEntry.definitions inside ∧
      (report.isNoop = true ↔ after.catalog = server.catalog) := by
  -- The run is the plan, so all parts of the report can be read off it.
  have noop := isNoop_planReport conditions.table server.catalog (columns.zip types)
  have statements := definitions_innerSteps conditions.table server.catalog (columns.zip types)
  have ran := run_spared flattened typed reachable spared
  rw [planReport_eq] at noop statements ran
  rw [log_steps] at ran
  exact ⟨_, _, _, ran, rfl, rfl, rfl, rfl, rfl, rfl, rfl, statements.symm, noop⟩

/-- A layout whose columns are in part there already. -/
def stationLayout : Layout := [.field ⟨"name", some "id", .text, ⟨true, true, false⟩⟩,
  .group "place" [.field ⟨"height", some "level", .floating 32, .none⟩,
    .field ⟨"labels", some "tags", .sequence .text, ⟨false, true, true⟩⟩],
  .field ⟨"opened", some "since", .timestamp, .none⟩]

/-- The columns of the layout. -/
def stationColumns : List Column := [⟨"name", "id", .text, ⟨true, true, false⟩⟩,
  ⟨"height", "level", .floating 32, .none⟩, ⟨"labels", "tags", .sequence .text, ⟨false, true, true⟩⟩,
  ⟨"opened", "since", .timestamp, .none⟩]

/-- A table with a column that no field asks for and one of another type. -/
def stationCatalog : Catalog := ⟨true, [("old", "bytea"), ("level", "int8"), ("id", "text")]⟩

/-- The creation of the table would fail, but it is not needed. -/
def stationConditions : Conditions :=
  ⟨[(.create, .hang), (.add "level", .error "full")], .affected 0, .withSchema "net" (.named "stations")⟩

/-- Two columns are added behind those that are there for good, and the one of another type is reported. -/
theorem run_additive_stations :
    Layout.columns stationLayout = .ok stationColumns ∧
    ∃ report after, run stationConditions stationColumns (.start .reachable stationCatalog) =
        (.done report, after) ∧
      after.saved = none ∧ after.log.getLast? = some Command.commit.logEntry ∧
      after.catalog.columns = [("old", "bytea"), ("level", "int8"), ("id", "text"),
        ("tags", "_text"), ("since", "timestamptz")] ∧
      report.added = ["tags", "since"] ∧ report.drifted = [⟨"level", .real, "int8"⟩] := by
  -- The mishaps of the script are all in places that the plan does not come to.
  have flattened : Layout.columns stationLayout = .ok stationColumns := rfl
  have typed : Column.storages stationColumns = .ok [.text, .real, .textList, .timestamp] := rfl
  have spared : ∀ step ∈ steps stationConditions.table stationCatalog
      (stationColumns.zip [.text, .real, .textList, .timestamp]),
        Spared stationConditions.script step := (spared_iff _ _).mpr (by decide)
  have reachable : (Server.start .reachable stationCatalog).link = .reachable := rfl
  obtain ⟨report, after, inside, ran, saved, log, _, columns, _, added, drifted, _⟩ :=
    run_additive flattened typed reachable spared
  refine ⟨flattened, report, after, ran, saved, ?_, columns, added, drifted⟩
  rw [log, ← List.append_assoc, List.getLast?_concat]

end Reconciliation

end RecordTables
