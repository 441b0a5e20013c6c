import RecordTables.Proofs.Server.Course
import RecordTables.Proofs.Server.Creation

/-!
The course of the statements that make a repository. Without faults the catalog settles it from the
beginning to the commit; a fault cuts it at the first statement that is reached, and does nothing else.
-/

namespace RecordTables

namespace Reconciliation

open Session

section Course

variable (table : Table) (catalog : Catalog)

/-- A column is looked for, and it is added if the catalog does not have it. -/
def columnCourse (entry : Column × StorageType) : Course :=
  ⟨.columnCheck entry.1.name, Statement.columnType,
      [.ofText? table.name, .ofText? table.schema, .ofText? entry.1.name]⟩ ::
    if entry.1.name ∈ catalog.columnNames then []
    else [⟨.add entry.1.name, Statement.addColumn table entry.1 entry.2, []⟩]

/--
The course without faults: the transaction begins, the lock is taken if the table asks for it, the table
is looked for and created if it is missing, the columns follow in order, and all is committed.
-/
def course (entries : List (Column × StorageType)) : Course :=
  ⟨.begin, "BEGIN", []⟩ ::
    (if table.advisoryLock then
      [⟨.lock, Statement.advisoryLock, [.ofText? table.reference]⟩] else []) ++
    ⟨.tableCheck, Statement.tableExists, [.ofText? table.name, .ofText? table.schema]⟩ ::
    (if catalog.tableExists then [] else [⟨.create, Statement.createTable table, []⟩]) ++
    entries.flatMap (columnCourse table catalog) ++
    [⟨.commit, "COMMIT", []⟩]

variable {table catalog} {entries : List (Column × StorageType)}

/-- The statements about a column are planned as they are in the course. -/
theorem columnSteps_course (entry : Column × StorageType) :
    (columnSteps table catalog entry).map Step.placedEntry = columnCourse table catalog entry := by
  -- The catalog has the column exactly when it has a type for it.
  unfold columnSteps columnCourse
  by_cases held : entry.1.name ∈ catalog.columnNames
  · rw [if_pos held, if_pos (Catalog.mem_columnNames.mp held)]
    rfl
  · rw [if_neg held, if_neg (mt Catalog.mem_columnNames.mpr held)]
    rfl

/-- The statements of a plan are those of the course. -/
theorem steps_course :
    (steps table catalog entries).map Step.placedEntry = course table catalog entries := by
  -- Each part of the plan is its part of the course.
  have locks : (lockSteps table).map Step.placedEntry = if table.advisoryLock then
      [⟨.lock, Statement.advisoryLock, [.ofText? table.reference]⟩] else [] := by
    unfold lockSteps
    cases table.advisoryLock <;> rfl
  have tables : (tableSteps table catalog).map Step.placedEntry =
      ⟨.tableCheck, Statement.tableExists, [.ofText? table.name, .ofText? table.schema]⟩ ::
        if catalog.tableExists then [] else [⟨.create, Statement.createTable table, []⟩] := by
    unfold tableSteps
    cases catalog.tableExists <;> rfl
  have columns : (entries.flatMap (columnSteps table catalog)).map Step.placedEntry =
      entries.flatMap (columnCourse table catalog) := by
    rw [List.map_flatMap]
    exact congrArg (List.flatMap · entries) (funext columnSteps_course)
  unfold steps innerSteps course
  rw [List.map_append, List.map_cons, List.map_append, List.map_append, locks, tables, columns]
  rfl

section Script

variable {script : Script}

/-- A plan whose statements are all spared has a course without a mishap. -/
theorem course_spared (spared : ∀ step ∈ steps table catalog entries, Spared script step) :
    (course table catalog entries).firstMishap? script = none := by
  -- The course has the places of the steps, and all of them are spared.
  rw [← steps_course]
  refine List.findSome?_eq_none_iff.mpr (List.forall_mem_map.mpr ?_)
  intro step planned
  exact Option.map_eq_none_iff.mpr ((step.mishap?_place script).symm.trans (spared step planned))

/-- The first mishap with a plan is where its course is cut. -/
theorem course_mishap {before behind : List Step} {step : Step} {mishap : Mishap}
    (split : steps table catalog entries = before ++ step :: behind)
    (spared : ∀ step ∈ before, Spared script step)
    (found : Server.mishap? script step.command = some mishap) :
    (course table catalog entries).cut script = (before ++ [step]).map Step.placedEntry ∧
      (course table catalog entries).firstMishap? script = some (step.place, mishap) := by
  -- The statements in front of the mishap have none at their places either.
  have clear : ∀ earlier ∈ before.map Step.placedEntry, script.mishap? earlier.place = none :=
    List.forall_mem_map.mpr fun earlier planned =>
      (earlier.mishap?_place script).symm.trans (spared earlier planned)
  have foundAt : script.mishap? step.placedEntry.place = some mishap :=
    (step.mishap?_place script).symm.trans found
  rw [← steps_course, split, List.map_append, List.map_cons, List.map_append]
  exact Course.cut_split clear foundAt (behind.map Step.placedEntry)

end Script

/-- A statement of a plan is named, and fails, as its place says. -/
def Regular (table : Table) (step : Step) : Prop :=
  step.operation = step.place.operation ∧ step.failure = step.place.failure table

/-- All statements of a plan are named, and fail, as their places say. -/
theorem steps_regular : ∀ step ∈ steps table catalog entries, Regular table step := by
  -- The plan has one kind of statement for each kind of place.
  have inner : ∀ step ∈ innerSteps table catalog entries, Regular table step :=
    forall_innerSteps table catalog ⟨rfl, rfl⟩ ⟨rfl, rfl⟩ ⟨rfl, rfl⟩ (fun _ => ⟨rfl, rfl⟩)
      (fun _ _ => ⟨rfl, rfl⟩) entries
  intro step member
  rcases List.mem_append.mp member with member | member
  · rcases List.mem_cons.mp member with rfl | member
    · exact ⟨rfl, rfl⟩
    · exact inner step member
  · rw [List.mem_singleton.mp member]
    exact ⟨rfl, rfl⟩

/-- Under a time limit a mishap with a statement of a plan is a failure, that of its place. -/
theorem ending_regular {α : Type} {conditions : Conditions} {step : Step}
    (regular : Regular conditions.table step) (limited : conditions.table.timeout.isSome = true)
    (mishap : Mishap) :
    (ending conditions step mishap : Outcome α) =
      .failed (step.place.fault conditions.table mishap) := by
  -- An error takes the failure of the place, and a hang its operation.
  cases mishap with
  | error text =>
    show Outcome.failed (step.failure (.database text)) = _
    rw [regular.2]
    rfl
  | hang =>
    unfold ending
    rw [if_pos limited, regular.1]
    rfl

end Course

end Reconciliation

namespace Repository

open Reconciliation

variable {table : Table} {layout : Layout} {columns : List Column} {types : List StorageType}
  {server : Server}

/-- What the making of a repository comes to: to the end of its course, or to the mishap that cuts it. -/
def courseOutcome (table : Table) (columns : List Column) (types : List StorageType)
    (server : Server) (left : Course) : Option (Place × Mishap) → Outcome Repository × Server
  | none =>
    (.done ⟨table, columns, planReport table server.catalog (columns.zip types)⟩,
      ⟨.reachable, planCatalog server.catalog (columns.zip types), none, server.log ++ left.log⟩)
  | some (place, mishap) =>
    (.failed (place.fault table mishap), { server with log := server.log ++ left.log })

/-- However a course ends, what is left of it has been logged. -/
theorem courseOutcome_log (left : Course) (first : Option (Place × Mishap)) :
    (courseOutcome table columns types server left first).2.log = server.log ++ left.log := by
  cases first <;> rfl

section

variable (prepared : prepare table layout = .ok columns)
  (typed : Column.storages columns = .ok types) (limited : table.timeout.isSome = true)
  (idle : server.Idle)

include prepared typed limited idle

/-- Under a time limit the making of a repository follows its course up to the first mishap. -/
theorem create_eq_courseOutcome (script : Script) :
    create table layout script server =
      courseOutcome table columns types server
        ((course table server.catalog (columns.zip types)).cut script)
        ((course table server.catalog (columns.zip types)).firstMishap? script) := by
  -- The plan has the places and the log of the course, so it is cut where the course is.
  rcases Session.spared_or_mishap script (steps table server.catalog (columns.zip types)) with
    spared | ⟨before, step, behind, mishap, split, spared, found⟩
  · have clear := course_spared spared
    rw [create_spared prepared typed idle.reachable spared, clear,
      Course.cut_of_firstMishap?_none clear, ← steps_course, ← Step.log_map_placedEntry]
    rfl
  · obtain ⟨left, first⟩ := course_mishap split spared found
    have ran : Reconciliation.run ⟨script, .affected 0, table⟩ columns server = _ :=
      run_mishap (prepare_ok prepared).1 typed idle.reachable idle.closed split spared found
    -- What the mishap becomes is settled by its place, as for every statement of the plan.
    have planned : step ∈ steps table server.catalog (columns.zip types) :=
      split ▸ List.mem_append_right _ List.mem_cons_self
    have failed : (Session.ending ⟨script, .affected 0, table⟩ step mishap : Outcome Repository) =
        .failed (step.place.fault table mishap) :=
      ending_regular (steps_regular step planned) limited mishap
    rw [create_prepared prepared, Session.andThen_ending ran, failed, left, first,
      ← Step.log_map_placedEntry]
    rfl

/--
Under a time limit the making of a repository goes, when nothing goes wrong, through the whole of its
course. Under any script it logs a beginning of the course, which ends with the first statement that has
a mishap; the failure is that of this mishap at its place, with the text of an error as what the store
reports, and nothing but the log has changed. Mishaps of statements that are not reached do nothing.
-/
theorem first_fault_cuts_course (script : Script) :
    create table layout [] server =
      (.done ⟨table, columns, planReport table server.catalog (columns.zip types)⟩,
        ⟨.reachable, planCatalog server.catalog (columns.zip types), none,
          server.log ++ (course table server.catalog (columns.zip types)).log⟩) ∧
    (create table layout script server).2.log =
      server.log ++ ((course table server.catalog (columns.zip types)).cut script).log ∧
    (course table server.catalog (columns.zip types)).cut script <+:
      course table server.catalog (columns.zip types) ∧
    ((course table server.catalog (columns.zip types)).firstMishap? script = none →
      create table layout script server = create table layout [] server) ∧
    (∀ place mishap,
      (course table server.catalog (columns.zip types)).firstMishap? script = some (place, mishap) →
      create table layout script server = (.failed (place.fault table mishap),
        { server with log :=
          server.log ++ ((course table server.catalog (columns.zip types)).cut script).log }) ∧
      (∃ before logged, (course table server.catalog (columns.zip types)).cut script =
          before ++ [⟨place, logged⟩] ∧
        ∀ earlier ∈ before, script.mishap? earlier.place = none) ∧
      ∀ text, mishap = .error text →
        (place.fault table mishap).source? = some (.database text) ∧
        (place.fault table mishap).isStoreFailure = true) ∧
    ∀ other : Script,
      (∀ next ∈ (course table server.catalog (columns.zip types)).cut script,
        other.mishap? next.place = script.mishap? next.place) →
      create table layout other server = create table layout script server := by
  -- All of it hangs on what is left of the course and on the mishap that comes first.
  have outcome := create_eq_courseOutcome prepared typed limited idle
  have undisturbed : ∀ {script : Script},
      (course table server.catalog (columns.zip types)).firstMishap? script = none →
      create table layout script server = courseOutcome table columns types server
        (course table server.catalog (columns.zip types)) none := by
    intro script clear
    rw [outcome, Course.cut_of_firstMishap?_none clear, clear]
  have faultless : (course table server.catalog (columns.zip types)).firstMishap? [] = none :=
    List.findSome?_eq_none_iff.mpr fun _ _ => rfl
  refine ⟨undisturbed faultless, ?_, Course.cut_prefix _ _, ?_, ?_, ?_⟩
  · rw [outcome, courseOutcome_log]
  · intro clear
    exact (undisturbed clear).trans (undisturbed faultless).symm
  · -- The call fails where its course is cut.
    intro place mishap first
    obtain ⟨before, logged, left, clear⟩ := Course.cut_of_firstMishap?_some first
    refine ⟨?_, ⟨before, logged, left, clear⟩, ?_⟩
    · rw [outcome, first]
      rfl
    · rintro text rfl
      have source := place.source?_failure table (.database text)
      exact ⟨source, congrArg Option.isSome source⟩
  · -- A script that agrees on what is left cuts the course in the same place.
    intro other agree
    obtain ⟨left, first⟩ := Course.cut_congr agree
    rw [outcome, outcome, left, first]

end

/-- A table with a time limit. -/
def kilnTable : Table := .withTimeout 250 (.named "kilns")

/-- A layout of two fields. -/
def kilnLayout : Layout := [.field ⟨"name", some "id", .text, ⟨true, false, false⟩⟩,
  .field ⟨"cone", some "cone", .signed 32, .none⟩]

/-- The columns of the layout. -/
def kilnColumns : List Column := [⟨"name", "id", .text, ⟨true, false, false⟩⟩,
  ⟨"cone", "cone", .signed 32, .none⟩]

/-- A server that has the table with the first of the columns. -/
def kilnServer : Server := .start .reachable ⟨true, [("id", "text")]⟩

/-- The course of all statements on this server. -/
def kilnCourse : Course := course kilnTable kilnServer.catalog (kilnColumns.zip [.text, .integer])

/-- A script with mishaps for a statement that is not sent, for the second column, and for the commit. -/
def kilnScript (mishap : Mishap) : Script :=
  [(.create, .error "denied"), (.add "cone", mishap), (.commit, .hang)]

/--
An error and a hang at the second column cut the course there, and a mishap in the creation of the
table, which is there already, does nothing.
-/
theorem first_fault_cuts_course_kilns :
    create kilnTable kilnLayout (kilnScript (.error "disk full")) kilnServer =
      (.failed (.columnAddition "kilns" "cone" (.database "disk full")),
        { kilnServer with log := Course.log (kilnCourse.take 6) }) ∧
    create kilnTable kilnLayout (kilnScript .hang) kilnServer =
      (.failed (.timeout "add column" "kilns"),
        { kilnServer with log := Course.log (kilnCourse.take 6) }) ∧
    create kilnTable kilnLayout [(.create, .error "denied")] kilnServer =
      create kilnTable kilnLayout [] kilnServer := by
  have prepared : prepare kilnTable kilnLayout = .ok kilnColumns := rfl
  have typed : Column.storages kilnColumns = .ok [.text, .integer] := rfl
  have cuts := first_fault_cuts_course prepared typed rfl (⟨rfl, rfl⟩ : kilnServer.Idle)
  refine ⟨?_, ?_, (cuts [(.create, .error "denied")]).2.2.2.1 (by decide)⟩
  -- The second column is the first place with a mishap that the course reaches.
  · exact ((cuts (kilnScript (.error "disk full"))).2.2.2.2.1 (.add "cone") (.error "disk full")
      (by decide)).1
  · exact ((cuts (kilnScript .hang)).2.2.2.2.1 (.add "cone") .hang (by decide)).1

end Repository

end RecordTables
