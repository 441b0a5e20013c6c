import Mathlib.Data.List.Basic
import RecordTables.Proofs.Dictionary
import RecordTables.Proofs.Server.Additive

/-!
Reconciliations only ever extend a catalog. So what one of them has settled stays settled, and to do
it again defines nothing, whatever other reconciliations there were in between.
-/

namespace RecordTables

namespace Catalog

/-- The names of the columns that the table has. -/
def columnNames (catalog : Catalog) : List String := catalog.columns.map Prod.fst

/-- The table has a column exactly when the catalog has a type for it. -/
theorem mem_columnNames {catalog : Catalog} {name : String} :
    name ∈ catalog.columnNames ↔ (catalog.typeOf? name).isSome = true := by
  -- A type is found under a name exactly if the name is there.
  unfold columnNames typeOf?
  rw [Option.isSome_map, List.find?_isSome, List.mem_map]
  simp only [beq_iff_eq]

/-- A catalog keeps all of an earlier one: the table stays, and columns are only appended. -/
structure Extends (later earlier : Catalog) : Prop where
  tableExists : earlier.tableExists = true → later.tableExists = true
  columns : earlier.columns <+: later.columns

/-- Every catalog keeps all of itself. -/
theorem Extends.refl (catalog : Catalog) : catalog.Extends catalog :=
  ⟨fun present => present, List.prefix_refl _⟩

/-- What keeps all of a later catalog keeps all of an earlier one. -/
theorem Extends.trans {last later earlier : Catalog} (second : last.Extends later)
    (first : later.Extends earlier) : last.Extends earlier :=
  ⟨fun present => second.tableExists (first.tableExists present),
    first.columns.trans second.columns⟩

/-- A column that is there keeps its type. -/
theorem Extends.typeOf?_eq {later earlier : Catalog} (grown : later.Extends earlier)
    {column type : String} (found : earlier.typeOf? column = some type) :
    later.typeOf? column = some type := by
  -- What is appended comes behind the entry that was found.
  obtain ⟨added, columns⟩ := grown.columns
  unfold Catalog.typeOf? at found ⊢
  obtain ⟨entry, held, rfl⟩ := Option.map_eq_some_iff.mp found
  rw [← columns, List.find?_append, held]
  rfl

end Catalog

/-- A server between two calls: it can be reached, and no transaction is open. -/
structure Server.Idle (server : Server) : Prop where
  reachable : server.link = .reachable
  closed : server.saved = none

namespace Reconciliation

open Session

section Plan

variable {catalog : Catalog} {entries : List (Column × StorageType)}

/-- A plan extends the catalog that it is made for. -/
theorem planCatalog_extends (catalog : Catalog) (entries : List (Column × StorageType)) :
    (planCatalog catalog entries).Extends catalog :=
  ⟨fun _ => rfl, List.prefix_append _ _⟩

/-- A column that was missing has the type declared for it when the plan is done. -/
theorem typeOf?_planCatalog (distinct : (entries.map fun entry => entry.1.name).Nodup)
    {entry : Column × StorageType} (member : entry ∈ entries)
    (absent : catalog.typeOf? entry.1.name = none) :
    (planCatalog catalog entries).typeOf? entry.1.name = some entry.2.catalogName := by
  -- No entry of the catalog has the name, and of those appended only this one has it.
  let named : Column × StorageType → String × String :=
    fun entry => (entry.1.name, entry.2.catalogName)
  have appended : named entry ∈ (missing catalog entries).map named :=
    List.mem_map_of_mem (List.mem_filter.mpr ⟨member, by simp [absent]⟩)
  have names : (((missing catalog entries).map named).map Prod.fst).Nodup := by
    rw [List.map_map]
    exact distinct.sublist (List.filter_sublist.map _)
  have found := find?_of_mem names appended
  have passed : (catalog.columns.find? fun other => other.1 == entry.1.name) = none :=
    Option.map_eq_none_iff.mp absent
  unfold Catalog.typeOf? planCatalog
  rw [List.find?_append, passed, Option.none_or, found]
  rfl

section Later

variable (distinct : (entries.map fun entry => entry.1.name).Nodup) {later : Catalog}
  (grown : later.Extends (planCatalog catalog entries))

include distinct grown

/-- When a plan is done, and ever after, all its columns are there. -/
theorem missing_of_extends : missing later entries = [] := by
  -- A column was there already, or the plan has added it.
  refine List.filter_eq_nil_iff.mpr ?_
  intro entry member
  cases held : catalog.typeOf? entry.1.name with
  | some type =>
    simp [grown.typeOf?_eq ((planCatalog_extends catalog entries).typeOf?_eq held)]
  | none => simp [grown.typeOf?_eq (typeOf?_planCatalog distinct member held)]

/-- When a plan is done, and ever after, there is to report of a column what there was before. -/
theorem drift?_of_extends {entry : Column × StorageType} (member : entry ∈ entries) :
    drift? later entry = drift? catalog entry := by
  -- A column that was there has kept its type, and one that was added has the type declared.
  cases held : catalog.typeOf? entry.1.name with
  | some type =>
    have kept := grown.typeOf?_eq ((planCatalog_extends catalog entries).typeOf?_eq held)
    simp only [drift?, held, kept]
  | none =>
    have added := grown.typeOf?_eq (typeOf?_planCatalog distinct member held)
    simp only [drift?, held, added, if_true]

/-- Once a plan is done, the plan for the same columns reports what it did and defines nothing. -/
theorem planReport_of_extends (table : Table) :
    planReport table later entries = ⟨false, [], entries.filterMap (drift? catalog), []⟩ := by
  -- The table is there and no column is missing, so only columns of other types are left.
  have present : later.tableExists = true := grown.tableExists rfl
  have drifted : entries.filterMap (drift? later) = entries.filterMap (drift? catalog) :=
    List.filterMap_congr fun entry member => drift?_of_extends distinct grown member
  rw [planReport_eq, missing_of_extends distinct grown, drifted, present]
  rfl

/-- Once a plan is done, the plan for the same columns leaves the catalog as it is. -/
theorem planCatalog_of_extends : planCatalog later entries = later := by
  have present : later.tableExists = true := grown.tableExists rfl
  rw [planCatalog, missing_of_extends distinct grown, List.map_nil, List.append_nil, ← present]

end Later

end Plan

section Run

variable {layout : Layout} {columns : List Column} {types : List StorageType}
  {conditions : Conditions} {server after : Server} {report : Report}

/-- A reconciliation is done only on a server that can be reached. -/
theorem reachable_of_done (done : run conditions columns server = (.done report, after)) :
    server.link = .reachable := by
  -- The transaction cannot even be begun on any other server.
  cases linked : server.link with
  | reachable => rfl
  | unreachable reason =>
    simp [run, rollbackOpen, begin, andThen, send, Server.send, linked] at done

variable (flattened : layout.columns = .ok columns) (typed : Column.storages columns = .ok types)

include flattened typed

/-- A reconciliation that is done has been done as planned. -/
theorem run_done (done : run conditions columns server = (.done report, after)) :
    report = planReport conditions.table server.catalog (columns.zip types) ∧
      after = ⟨.reachable, planCatalog server.catalog (columns.zip types), none,
        server.log ++ Step.log (steps conditions.table server.catalog (columns.zip types))⟩ := by
  have reachable := reachable_of_done done
  rcases spared_or_mishap conditions.script
      (steps conditions.table server.catalog (columns.zip types)) with
    spared | ⟨before, step, behind, mishap, split, spared, found⟩
  · rw [run_spared flattened typed reachable spared] at done
    obtain ⟨made, left⟩ := Prod.mk.inj done
    exact ⟨(Outcome.done.inj made).symm, left.symm⟩
  · -- A mishap would have ended the call without a result.
    rw [run_eq reachable (Layout.columns_nodup flattened) typed, split] at done
    obtain ⟨_, ended, _⟩ := rollbackOpen_done done
    obtain ⟨value, _, carried, _⟩ := andThen_done ended
    rw [carryOut_mishap reachable spared found] at carried
    exact absurd (Prod.mk.inj carried).1 (ending_ne_done conditions step mishap value)

/-- However a reconciliation ends, the server is between two calls again and has kept its catalog. -/
theorem run_extends (conditions : Conditions) (idle : server.Idle) :
    (run conditions columns server).2.Idle ∧
      (run conditions columns server).2.catalog.Extends server.catalog := by
  -- Either the plan is done, which extends the catalog, or nothing but the log has changed.
  rcases run_cases flattened typed idle.reachable conditions idle.closed with
    done | ⟨step, mishap, entries, cut⟩
  · rw [done]
    exact ⟨⟨rfl, rfl⟩, planCatalog_extends _ _⟩
  · rw [cut]
    exact ⟨⟨idle.reachable, idle.closed⟩, Catalog.Extends.refl _⟩

end Run

/-- The servers that one comes to by reconciliations, each for a layout of its own and however it ends. -/
inductive Followed (server : Server) : Server → Prop
  | start : Followed server server
  | again {later : Server} {layout : Layout} {columns : List Column} {types : List StorageType}
      (conditions : Conditions) (before : Followed server later)
      (flattened : layout.columns = .ok columns) (typed : Column.storages columns = .ok types) :
      Followed server (run conditions columns later).2

/-- Any number of reconciliations leave a server between two calls, with all of its catalog kept. -/
theorem Followed.extends_catalog {server later : Server} (followed : Followed server later)
    (idle : server.Idle) : later.Idle ∧ later.catalog.Extends server.catalog := by
  -- The induction is on the reconciliations, each of which keeps what the ones before have kept.
  induction followed with
  | start => exact ⟨idle, Catalog.Extends.refl _⟩
  | again conditions before flattened typed ih =>
    obtain ⟨stillIdle, grown⟩ := ih
    obtain ⟨idleAfter, grownAfter⟩ := run_extends flattened typed conditions stillIdle
    exact ⟨idleAfter, grownAfter.trans grown⟩

/--
When a reconciliation has been done, then after any others, for whatever layouts and however they
ended, the same columns are reconciled once more without a change: no statement defines anything, the
catalog stays as it is, and the columns reported to be of another type are those of the first report.
-/
theorem run_again_defines_nothing {layout : Layout} {columns : List Column}
    {types : List StorageType} {first again : Conditions} {server after later : Server}
    {report : Report} (flattened : layout.columns = .ok columns)
    (typed : Column.storages columns = .ok types)
    (done : run first columns server = (.done report, after)) (followed : Followed after later)
    (spared : ∀ step ∈ steps again.table later.catalog (columns.zip types),
      Spared again.script step) :
    ∃ entries, run again columns later =
        (.done ⟨false, [], report.drifted, []⟩, { later with log := later.log ++ entries }) ∧
      LogEntry.definitions entries = [] := by
  -- The first run has left its plan done, and everything since then has kept it.
  obtain ⟨rfl, rfl⟩ := run_done flattened typed done
  obtain ⟨idle, grown⟩ := followed.extends_catalog ⟨rfl, rfl⟩
  have distinct := nodup_zip flattened typed
  have planned := planReport_of_extends distinct grown again.table
  have unchanged := planCatalog_of_extends distinct grown
  refine ⟨Step.log (steps again.table later.catalog (columns.zip types)), ?_, ?_⟩
  · rw [run_spared flattened typed idle.reachable spared, planned, unchanged, planReport_eq,
      ← idle.reachable, ← idle.closed]
  · rw [definitions_steps, planned]

/-- A layout with a field that the table already has a column of another type for. -/
def wellLayout : Layout := [.field ⟨"name", some "id", .text, ⟨true, false, false⟩⟩,
  .field ⟨"depth", some "depth", .floating 32, .none⟩]

/-- The columns of the layout. -/
def wellColumns : List Column := [⟨"name", "id", .text, ⟨true, false, false⟩⟩,
  ⟨"depth", "depth", .floating 32, .none⟩]

/-- Another layout of the same table, which sees both columns otherwise and has one more. -/
def surveyLayout : Layout := [.field ⟨"number", some "id", .signed 64, .none⟩,
  .field ⟨"owner", some "owner", .text, .none⟩, .field ⟨"depth", some "depth", .signed 64, .none⟩]

/-- The columns of the other layout. -/
def surveyColumns : List Column := [⟨"number", "id", .signed 64, .none⟩,
  ⟨"owner", "owner", .text, .none⟩, ⟨"depth", "depth", .signed 64, .none⟩]

/-- A reconciliation of the table of wells under a script of mishaps. -/
def wellConditions (script : Script) : Conditions := ⟨script, .affected 0, .named "wells"⟩

/-- The server once the wells are there: the key was added, and the depth is of another type. -/
def wellServer : Server :=
  (run (wellConditions []) wellColumns (.start .reachable ⟨true, [("depth", "int4")]⟩)).2

/-- The server after the other layout: stopped at first behind a column that it has added, and then done. -/
def surveyedServer : Server :=
  (run (wellConditions []) surveyColumns
    (run (wellConditions [(.columnCheck "depth", .error "lost")]) surveyColumns wellServer).2).2

/-- The other layout has added its owner in between, and the first one finds just what it found before. -/
theorem run_again_defines_nothing_wells :
    run (wellConditions []) wellColumns (.start .reachable ⟨true, [("depth", "int4")]⟩) =
      (.done ⟨false, ["id"], [⟨"depth", .real, "int4"⟩],
        ["ALTER TABLE \"wells\" ADD COLUMN \"id\" TEXT PRIMARY KEY"]⟩, wellServer) ∧
    Followed wellServer surveyedServer ∧
    surveyedServer.catalog.columns = [("depth", "int4"), ("id", "text"), ("owner", "text")] ∧
    ∃ entries, run (wellConditions []) wellColumns surveyedServer =
        (.done ⟨false, [], [⟨"depth", .real, "int4"⟩], []⟩,
          { surveyedServer with log := surveyedServer.log ++ entries }) ∧
      LogEntry.definitions entries = [] := by
  have flattened : Layout.columns wellLayout = .ok wellColumns := rfl
  have typed : Column.storages wellColumns = .ok [.text, .real] := rfl
  have otherFlattened : Layout.columns surveyLayout = .ok surveyColumns := rfl
  have otherTyped : Column.storages surveyColumns = .ok [.integer, .text, .integer] := rfl
  have done : run (wellConditions []) wellColumns (.start .reachable ⟨true, [("depth", "int4")]⟩) =
      (.done ⟨false, ["id"], [⟨"depth", .real, "int4"⟩],
        ["ALTER TABLE \"wells\" ADD COLUMN \"id\" TEXT PRIMARY KEY"]⟩, wellServer) := rfl
  have followed : Followed wellServer surveyedServer :=
    (Followed.start.again _ otherFlattened otherTyped).again _ otherFlattened otherTyped
  -- No mishap is scripted for the last run, so all its statements are spared.
  have free : ∀ step ∈ steps (wellConditions []).table surveyedServer.catalog
      (wellColumns.zip [.text, .real]), Spared (wellConditions []).script step :=
    (spared_iff _ _).mpr fun _ impossible => absurd impossible List.not_mem_nil
  exact ⟨done, followed, rfl, run_again_defines_nothing flattened typed done followed free⟩

end Reconciliation

end RecordTables
