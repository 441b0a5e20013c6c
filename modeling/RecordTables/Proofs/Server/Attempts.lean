import RecordTables.Proofs.Server.Creation
import RecordTables.Server.Run

/-! Attempts to bring a table up to date: one that fails leaves no trace but in the log. -/

namespace RecordTables

/-- An attempt to bring a table up to date: by making its repository, or through the one there is. -/
inductive Attempt where
  | create (script : Script)
  | reconcile (script : Script)

namespace Attempt

/-- What may go wrong in an attempt. -/
def script : Attempt → Script
  | .create script => script
  | .reconcile script => script

/-- The same attempt with nothing going wrong. -/
def spared : Attempt → Attempt
  | .create _ => .create []
  | .reconcile _ => .reconcile []

/-- The call of an attempt. -/
def call (table : Table) : Attempt → ServerCall
  | .create script => .create table script
  | .reconcile script => .reconcile script

/-- Whether a run has what an attempt needs. -/
def Possible (run : ServerRun) : Attempt → Prop
  | .create _ => True
  | .reconcile _ => run.repository.isSome = true

/-- The answer to an attempt that succeeds. -/
def success {α : Type} (table : Table) (columns : List Column) (report : Report) :
    Attempt → ServerAnswer α
  | .create _ => .ready ⟨table, columns, report⟩
  | .reconcile _ => .report report

/-- The repository that a run has after an attempt that succeeds. -/
def repository (table : Table) (columns : List Column) (report : Report)
    (before : Option Repository) : Attempt → Option Repository
  | .create _ => some ⟨table, columns, report⟩
  | .reconcile _ => before

end Attempt

/-- The report that an answer brings if the table is up to date. -/
def ServerAnswer.report? {α : Type} : ServerAnswer α → Option Report
  | .ready repository => some repository.report
  | .report made => some made
  | _ => none

/-- The failure that a mishap with a statement comes to under a time limit. -/
def Step.fault (table : Table) (step : Step) : Mishap → Failure
  | .error text => step.failure (.database text)
  | .hang => .timeout step.operation table.name

namespace ServerRun

/-- A run between two calls: no transaction is open, and the repository is that of a table. -/
structure Ready (table : Table) (columns : List Column) (run : ServerRun) : Prop where
  reachable : run.server.link = .reachable
  closed : run.server.saved = none
  repository : ∀ repository, run.repository = some repository →
    repository.table = table ∧ repository.columns = columns

/-- The run with more entries in the log of its server. -/
def logged (run : ServerRun) (entries : List LogEntry) : ServerRun :=
  { run with server := { run.server with log := run.server.log ++ entries } }

/-- The runs that a run comes to by attempts that all fail. -/
inductive Retried {α : Type} (table : Table) (layout : Layout) (reader : RecordReader α)
    (run : ServerRun) : ServerRun → Prop
  | start : Retried table layout reader run run
  | again {later : ServerRun} (attempt : Attempt) (before : Retried table layout reader run later)
      (failed : (later.call layout reader (attempt.call table)).1.report? = none) :
      Retried table layout reader run (later.call layout reader (attempt.call table)).2

section Attempt

variable {α : Type} {table : Table} {layout : Layout} {columns : List Column}
  {types : List StorageType} {run : ServerRun}

/-- An attempt comes to what its reconciliation comes to. -/
theorem call_eq (prepared : Repository.prepare table layout = .ok columns)
    (reader : RecordReader α) (ready : run.Ready table columns) {attempt : Attempt}
    (possible : attempt.Possible run) :
    run.call layout reader (attempt.call table) =
      match Reconciliation.run ⟨attempt.script, .affected 0, table⟩ columns run.server with
      | (.done report, after) => (attempt.success table columns report,
          ⟨after, attempt.repository table columns report run.repository⟩)
      | (.failed failure, after) => (.failed failure, { run with server := after })
      | (.stuck, after) => (.stuck, { run with server := after }) := by
  -- Making a repository and asking one both come down to a reconciliation of the same columns.
  cases attempt with
  | create script =>
    simp only [Attempt.call, Attempt.script, call, create, Repository.create, prepared,
      Session.ofExcept, Session.result, Session.andThen]
    cases Reconciliation.run ⟨script, .affected 0, table⟩ columns run.server with
    | mk outcome after => cases outcome <;> rfl
  | reconcile script =>
    obtain ⟨repository, held⟩ := Option.isSome_iff_exists.mp possible
    obtain ⟨rfl, rfl⟩ := ready.repository repository held
    simp only [Attempt.call, Attempt.script, call, onRepository, held, Repository.reconcile]
    cases Reconciliation.run ⟨script, .affected 0, repository.table⟩ repository.columns run.server with
    | mk outcome after => cases outcome <;> rfl

variable (prepared : Repository.prepare table layout = .ok columns)
  (typed : Column.storages columns = .ok types) (reader : RecordReader α)
  (ready : run.Ready table columns) {attempt : Attempt} (possible : attempt.Possible run)

include prepared typed ready possible

/-- An attempt that is spared brings the table up to date. -/
theorem call_spared (spared : ∀ step ∈ Reconciliation.steps table run.server.catalog
      (columns.zip types), Session.Spared attempt.script step) :
    run.call layout reader (attempt.call table) =
      (attempt.success table columns
          (Reconciliation.planReport table run.server.catalog (columns.zip types)),
        ⟨⟨.reachable, Reconciliation.planCatalog run.server.catalog (columns.zip types), none,
            run.server.log ++
              Step.log (Reconciliation.steps table run.server.catalog (columns.zip types))⟩,
          attempt.repository table columns
            (Reconciliation.planReport table run.server.catalog (columns.zip types))
            run.repository⟩) := by
  -- The reconciliation is done as planned.
  have made : Reconciliation.run ⟨attempt.script, .affected 0, table⟩ columns run.server = _ :=
    Reconciliation.run_spared (Repository.prepare_ok prepared).1 typed ready.reachable spared
  rw [call_eq prepared reader ready possible, made]

/-- An attempt with a mishap fails, and leaves nothing but the statements up to it in the log. -/
theorem call_mishap (limited : table.timeout.isSome = true) {before behind : List Step}
    {step : Step} {mishap : Mishap}
    (split : Reconciliation.steps table run.server.catalog (columns.zip types) =
      before ++ step :: behind)
    (spared : ∀ step ∈ before, Session.Spared attempt.script step)
    (found : Server.mishap? attempt.script step.command = some mishap) :
    run.call layout reader (attempt.call table) =
      (.failed (step.fault table mishap), run.logged (Step.log (before ++ [step]))) := by
  -- The reconciliation is cut short, and under a limit even a statement that never ends is a failure.
  have made : Reconciliation.run ⟨attempt.script, .affected 0, table⟩ columns run.server = _ :=
    Reconciliation.run_mishap (Repository.prepare_ok prepared).1 typed ready.reachable ready.closed
      split spared found
  rw [call_eq prepared reader ready possible, made]
  cases mishap with
  | error text => rfl
  | hang =>
    simp only [Session.ending, limited, if_true]
    rfl

/-- An attempt brings the table up to date if it is spared, and else fails and only lengthens the log. -/
theorem call_cases (limited : table.timeout.isSome = true) :
    ((∀ step ∈ Reconciliation.steps table run.server.catalog (columns.zip types),
        Session.Spared attempt.script step) ∧
      (run.call layout reader (attempt.call table)).1 = attempt.success table columns
        (Reconciliation.planReport table run.server.catalog (columns.zip types))) ∨
    ((¬ ∀ step ∈ Reconciliation.steps table run.server.catalog (columns.zip types),
        Session.Spared attempt.script step) ∧
      ∃ failure entries,
        run.call layout reader (attempt.call table) = (.failed failure, run.logged entries)) := by
  -- The first mishap, if there is one, is with a statement of the plan.
  rcases Session.spared_or_mishap attempt.script
      (Reconciliation.steps table run.server.catalog (columns.zip types)) with
    spared | ⟨before, step, behind, mishap, split, sparedBefore, found⟩
  · rw [call_spared prepared typed reader ready possible spared]
    exact Or.inl ⟨spared, rfl⟩
  · rw [call_mishap prepared typed reader ready possible limited split sparedBefore found]
    refine Or.inr ⟨fun spared => ?_, _, _, rfl⟩
    have planned : step ∈ Reconciliation.steps table run.server.catalog (columns.zip types) := by
      rw [split]
      exact List.mem_append_right _ List.mem_cons_self
    have none := spared step planned
    rw [Session.Spared, found] at none
    cases none

end Attempt

section Retry

variable {α : Type} {table : Table} {layout : Layout} {columns : List Column}
  {types : List StorageType} {run : ServerRun}

/-- More entries in the log leave a run between two calls. -/
theorem Ready.logged (ready : run.Ready table columns) (entries : List LogEntry) :
    (run.logged entries).Ready table columns :=
  ⟨ready.reachable, ready.closed, ready.repository⟩

/-- A run on a server that can be reached is between two calls before the first of them. -/
theorem ready_start (table : Table) (columns : List Column) (catalog : Catalog) :
    Ready table columns ⟨.start .reachable catalog, none⟩ :=
  ⟨rfl, rfl, fun _ impossible => nomatch impossible⟩

/-- An attempt succeeds with a report of what it has done. -/
theorem report?_success (attempt : Attempt) (report : Report) :
    (attempt.success table columns report : ServerAnswer α).report? = some report := by
  cases attempt <;> rfl

/-- What a run has logged since an earlier moment is what was appended to its log. -/
theorem logSince_append {server : Server} {entries : List LogEntry} {repository : Option Repository}
    (appended : server.log = run.server.log ++ entries) :
    logSince ⟨server, repository⟩ run = entries := by
  simp [logSince, appended]

/-- A run with nothing more in its log is the run itself. -/
theorem logged_nil (run : ServerRun) : run.logged [] = run := by
  unfold ServerRun.logged
  rw [List.append_nil]

/-- Entries come into a log one after the other. -/
theorem logged_logged (run : ServerRun) (first second : List LogEntry) :
    (run.logged first).logged second = run.logged (first ++ second) := by
  unfold ServerRun.logged
  rw [List.append_assoc]

/-- Without what it needs an attempt sends nothing. -/
theorem call_impossible (reader : RecordReader α) {attempt : Attempt}
    (impossible : ¬ attempt.Possible run) :
    run.call layout reader (attempt.call table) = (.noRepository, run) := by
  -- Only a reconciliation needs a repository to be there.
  cases attempt with
  | create script => exact absurd trivial impossible
  | reconcile script =>
    have absent : run.repository = none := Option.not_isSome_iff_eq_none.mp impossible
    simp only [Attempt.call, call, onRepository, absent]

/-- An attempt that fails leaves nothing but entries in the log, possible or not. -/
theorem call_failed (prepared : Repository.prepare table layout = .ok columns)
    (typed : Column.storages columns = .ok types) (limited : table.timeout.isSome = true)
    (reader : RecordReader α) (ready : run.Ready table columns) {attempt : Attempt}
    (failed : (run.call layout reader (attempt.call table)).1.report? = none) :
    ∃ entries, (run.call layout reader (attempt.call table)).2 = run.logged entries := by
  -- An attempt that is spared would have succeeded, so there was a mishap or nothing was sent.
  by_cases possible : attempt.Possible run
  · rcases call_cases prepared typed reader ready possible limited with
      ⟨_, succeeded⟩ | ⟨_, _, entries, cut⟩
    · rw [succeeded, report?_success] at failed
      cases failed
    · exact ⟨entries, congrArg Prod.snd cut⟩
  · rw [call_impossible reader possible]
    exact ⟨[], (logged_nil run).symm⟩

/-- Attempts that have all failed leave nothing but entries in the log. -/
theorem Retried.logged {reader : RecordReader α} {later : ServerRun}
    (prepared : Repository.prepare table layout = .ok columns)
    (typed : Column.storages columns = .ok types) (limited : table.timeout.isSome = true)
    (ready : run.Ready table columns) (retried : Retried table layout reader run later) :
    ∃ entries, later = run.logged entries := by
  -- The induction is on the attempts, each of which only lengthens the log.
  induction retried with
  | start => exact ⟨[], (logged_nil run).symm⟩
  | again attempt before failed ih =>
    obtain ⟨entries, rfl⟩ := ih
    obtain ⟨more, same⟩ :=
      call_failed prepared typed limited reader (ready.logged entries) failed
    exact ⟨entries ++ more, same.trans (logged_logged run entries more)⟩

/-- An attempt does not depend on what is in the log already, and logs the same behind it. -/
theorem call_logged (prepared : Repository.prepare table layout = .ok columns)
    (typed : Column.storages columns = .ok types) (limited : table.timeout.isSome = true)
    (reader : RecordReader α) (ready : run.Ready table columns) {attempt : Attempt}
    (possible : attempt.Possible run) (entries : List LogEntry) :
    ((run.logged entries).call layout reader (attempt.call table)).1 =
        (run.call layout reader (attempt.call table)).1 ∧
      ((run.logged entries).call layout reader (attempt.call table)).2.server.catalog =
        (run.call layout reader (attempt.call table)).2.server.catalog ∧
      ((run.logged entries).call layout reader (attempt.call table)).2.logSince (run.logged entries) =
        (run.call layout reader (attempt.call table)).2.logSince run := by
  have readyLogged := ready.logged entries
  have possibleLogged : attempt.Possible (run.logged entries) := by
    cases attempt with
    | create script => exact trivial
    | reconcile script => exact possible
  -- The plan is the same, as the catalog is, and so is the first mishap in it.
  rcases Session.spared_or_mishap attempt.script
      (Reconciliation.steps table run.server.catalog (columns.zip types)) with
    spared | ⟨before, step, behind, mishap, split, spared, found⟩
  · rw [call_spared prepared typed reader ready possible spared,
      call_spared prepared typed reader readyLogged possibleLogged spared]
    exact ⟨rfl, rfl, (logSince_append rfl).trans (logSince_append rfl).symm⟩
  · rw [call_mishap prepared typed reader ready possible limited split spared found,
      call_mishap prepared typed reader readyLogged possibleLogged limited split spared found]
    exact ⟨rfl, rfl, (logSince_append rfl).trans (logSince_append rfl).symm⟩

/--
Under a time limit an attempt succeeds exactly when no mishap is in the place of a statement that is
sent when nothing goes wrong, and otherwise it fails and leaves the catalog as it was. So after any
number of attempts that have failed, another one comes to the same answer, the same catalog and the
same entries in the log as it would have come to at once.
-/
theorem failed_attempts_leave_no_trace (prepared : Repository.prepare table layout = .ok columns)
    (typed : Column.storages columns = .ok types) (limited : table.timeout.isSome = true)
    (reader : RecordReader α) (ready : run.Ready table columns) :
    (∀ attempt : Attempt, attempt.Possible run →
      (run.call layout reader (attempt.spared.call table)).1.report?.isSome = true ∧
      (run.call layout reader (attempt.spared.call table)).2.logSince run =
        Step.log (Reconciliation.steps table run.server.catalog (columns.zip types)) ∧
      ((run.call layout reader (attempt.call table)).1.report?.isSome = true ↔
        ∀ entry ∈ attempt.script,
          ∀ step ∈ Reconciliation.steps table run.server.catalog (columns.zip types),
            entry.1 ≠ step.place) ∧
      ((run.call layout reader (attempt.call table)).1.report? = none →
        (∃ failure, (run.call layout reader (attempt.call table)).1 = .failed failure) ∧
        (run.call layout reader (attempt.call table)).2.server.catalog = run.server.catalog)) ∧
    ∀ later, Retried table layout reader run later →
      later.server.catalog = run.server.catalog ∧
      ∀ attempt : Attempt, attempt.Possible run →
        (later.call layout reader (attempt.call table)).1 =
          (run.call layout reader (attempt.call table)).1 ∧
        (later.call layout reader (attempt.call table)).2.server.catalog =
          (run.call layout reader (attempt.call table)).2.server.catalog ∧
        (later.call layout reader (attempt.call table)).2.logSince later =
          (run.call layout reader (attempt.call table)).2.logSince run := by
  -- What an attempt comes to hangs on its plan, and the plan hangs on the catalog alone.
  refine ⟨?_, ?_⟩
  · intro attempt possible
    have faultless : ∀ step ∈ Reconciliation.steps table run.server.catalog (columns.zip types),
        Session.Spared attempt.spared.script step := by
      refine (Session.spared_iff _ _).mpr ?_
      cases attempt <;> exact fun _ impossible => absurd impossible List.not_mem_nil
    have possibleSpared : attempt.spared.Possible run := by
      cases attempt <;> exact possible
    rw [call_spared prepared typed reader ready possibleSpared faultless, report?_success,
      ← Session.spared_iff]
    refine ⟨rfl, logSince_append rfl, ?_⟩
    -- With a mishap on a planned step the attempt fails and is rolled back, and without any it
    -- does all of the plan.
    rcases call_cases prepared typed reader ready possible limited with
      ⟨spared, succeeded⟩ | ⟨unspared, failure, entries, cut⟩
    · rw [succeeded, report?_success]
      exact ⟨⟨fun _ => spared, fun _ => rfl⟩, fun impossible => nomatch impossible⟩
    · rw [cut]
      refine ⟨⟨fun impossible => (nomatch impossible), fun spared => absurd spared unspared⟩, ?_⟩
      exact fun _ => ⟨⟨failure, rfl⟩, rfl⟩
  · intro later retried
    -- Failed attempts have only added to the log.
    obtain ⟨entries, rfl⟩ := retried.logged prepared typed limited ready
    exact ⟨rfl, fun attempt possible =>
      call_logged prepared typed limited reader ready possible entries⟩

/-- A table with a time limit. -/
def buoyTable : Table := .withTimeout 500 (.named "buoys")

/-- A layout of two fields. -/
def buoyLayout : Layout := [.field ⟨"name", some "id", .text, ⟨true, false, false⟩⟩,
  .field ⟨"depth", some "depth", .signed 32, .none⟩]

/-- The columns of the layout. -/
def buoyColumns : List Column := [⟨"name", "id", .text, ⟨true, false, false⟩⟩,
  ⟨"depth", "depth", .signed 32, .none⟩]

/-- A run on a server that does not have the table yet. -/
def buoyRun : ServerRun := ⟨.start .reachable ⟨false, []⟩, none⟩

/-- Two attempts fail, at the second column and at the very end, and the third one succeeds. -/
theorem failed_attempts_leave_no_trace_buoys :
    ∃ later, Retried buoyTable buoyLayout (ReadPlan.readout []) buoyRun later ∧
      later.server.catalog = ⟨false, []⟩ ∧
      (later.call buoyLayout (ReadPlan.readout [])
          ((Attempt.create []).call buoyTable)).2.server.catalog =
        ⟨true, [("id", "text"), ("depth", "int4")]⟩ := by
  -- A script with an entry in a place of the plan makes an attempt fail.
  have prepared : Repository.prepare buoyTable buoyLayout = .ok buoyColumns := rfl
  have typed : Column.storages buoyColumns = .ok [.text, .integer] := rfl
  have ready : buoyRun.Ready buoyTable buoyColumns := ready_start _ _ _
  obtain ⟨single, retry⟩ :=
    failed_attempts_leave_no_trace prepared typed rfl (ReadPlan.readout []) ready
  have fails : ∀ script : Script, (∃ entry ∈ script,
      ∃ step ∈ Reconciliation.steps buoyTable ⟨false, []⟩ (buoyColumns.zip [.text, .integer]),
        entry.1 = step.place) →
      (buoyRun.call buoyLayout (ReadPlan.readout [])
        ((Attempt.create script).call buoyTable)).1.report? = none := by
    rintro script ⟨entry, scripted, step, planned, same⟩
    refine Option.not_isSome_iff_eq_none.mp fun succeeds => ?_
    exact (single (.create script) trivial).2.2.1.mp succeeds entry scripted step planned same
  have addFails := fails [(.add "depth", .error "full")] (by decide)
  have commitFails := fails [(.commit, .hang)] (by decide)
  have once := Retried.start.again (.create [(.add "depth", .error "full")]) addFails
  have sameAnswer := ((retry _ once).2 (.create [(.commit, .hang)]) trivial).1
  have twice := once.again (.create [(.commit, .hang)])
    ((congrArg ServerAnswer.report? sameAnswer).trans commitFails)
  obtain ⟨unchanged, again⟩ := retry _ twice
  refine ⟨_, twice, unchanged, (again (.create []) trivial).2.1.trans ?_⟩
  -- At once the third attempt is spared, and so it leaves the catalog that was planned.
  have spared : ∀ step ∈ Reconciliation.steps buoyTable buoyRun.server.catalog
      (buoyColumns.zip [.text, .integer]), Session.Spared (Attempt.create []).script step :=
    (Session.spared_iff _ _).mpr fun _ impossible => absurd impossible List.not_mem_nil
  have possible : (Attempt.create []).Possible buoyRun := trivial
  rw [call_spared prepared typed (ReadPlan.readout []) ready possible spared]
  rfl

end Retry

end ServerRun

end RecordTables
