import RecordTables.Proofs.Memory.Acceptance
import RecordTables.Proofs.Memory.Consistency
import RecordTables.Proofs.Server.Creation
import RecordTables.Proofs.Statement.Insertion

/-!
Tables in memory and tables on a server accept the same descriptions. What is wrong with a description
is said when a table is made, and never by a later call.
-/

namespace RecordTables

/-- Everything that is wrong with the description of a table, in the order in which it is looked for. -/
def descriptionFaults (table : Table) (layout : Layout) : List Failure :=
  table.faults ++ layout.columnFaults ++ layout.typeFaults

section Making

variable {table : Table} {layout : Layout} {columns : List Column} {server : Server}

/-- The columns of a table are refused for the first thing that is wrong with its description. -/
theorem Repository.failure?_prepare (table : Table) (layout : Layout) :
    failure? (prepare table layout) = (descriptionFaults table layout).head? := by
  -- The parts of the list are looked through in the order of the checks.
  have names := table.failure?_validate
  have flattening := layout.failure?_columns
  unfold prepare descriptionFaults
  rw [List.head?_append, List.head?_append, ← names, ← flattening]
  cases table.validate with
  | error failure => rfl
  | ok _ =>
    cases flattened : layout.columns with
    | error failure => rfl
    | ok columns =>
      have types := Layout.failure?_storages flattened
      rw [← types]
      dsimp only
      cases Column.storages columns <;> rfl

/-- A table in memory is made of the columns that are prepared for a table on a server. -/
theorem MemoryTable.create_eq (table : Table) (layout : Layout) :
    create table layout =
      (Repository.prepare table layout).map fun columns => ⟨table.name, columns, []⟩ := by
  -- Both look at the names, then at the tags and then at the types.
  unfold create Repository.prepare
  cases table.validate with
  | error failure => rfl
  | ok _ =>
    cases layout.columns with
    | error failure => rfl
    | ok columns =>
      dsimp only
      cases Column.storages columns <;> rfl

/-- A table in memory is refused for what its columns are refused for. -/
theorem MemoryTable.create_error {failure : Failure} :
    create table layout = .error failure ↔ Repository.prepare table layout = .error failure := by
  rw [create_eq, map_eq_error]

/-- Making a repository of an accepted description sends at least one statement. -/
theorem Repository.create_logs (prepared : prepare table layout = .ok columns) (script : Script)
    (idle : server.Idle) : (create table layout script server).2.log ≠ server.log := by
  -- Whether the plan is done or cut short, the statement that begins it is logged.
  obtain ⟨flattened, types, typed⟩ := prepare_ok prepared
  have longer : ∀ steps : List Step, steps ≠ [] → server.log ++ Step.log steps ≠ server.log := by
    intro steps inhabited same
    exact inhabited (List.map_eq_nil_iff.mp (List.append_right_eq_self.mp same))
  rw [create_server prepared]
  rcases Session.spared_or_mishap script
      (Reconciliation.steps table server.catalog (columns.zip types)) with
    spared | ⟨before, step, behind, mishap, split, spared, found⟩
  · rw [Reconciliation.run_spared flattened typed idle.reachable spared]
    exact longer _ (List.cons_ne_nil _ _)
  · rw [Reconciliation.run_mishap flattened typed idle.reachable idle.closed split spared found]
    exact longer _ (List.append_ne_nil_of_right_ne_nil _ (List.cons_ne_nil _ _))

end Making

namespace Session

variable {α β : Type}

/-- A call that never fails for the description of its table, whatever the server. -/
def Accepts (call : Session α) : Prop :=
  ∀ server failure, (call server).1 = .failed failure → failure.concernsDescription = false

/-- What is known beforehand fails exactly as it is known to. -/
theorem ofExcept_failed {outcome : Except Failure α} {server : Server} {failure : Failure} :
    (ofExcept outcome server).1 = .failed failure ↔ outcome = .error failure := by
  cases outcome <;> simp [ofExcept, result, fail]

/-- What is known beforehand is accepted as a call if it is accepted. -/
theorem accepts_ofExcept {outcome : Except Failure α} (accepted : Accepted outcome) :
    (ofExcept outcome).Accepts := by
  intro server failure failed
  exact accepted failure (ofExcept_failed.mp failed)

/-- A call that has its result without any statement does not fail. -/
theorem accepts_result (value : α) : (result value).Accepts := fun _ _ impossible => nomatch impossible

/-- A call after another fails as the first one fails, or as it fails with a result of the first. -/
theorem andThen_failed {first : Session α} {second : α → Session β} {server : Server}
    {failure : Failure} (failed : (first.andThen second server).1 = .failed failure) :
    (first server).1 = .failed failure ∨
      ∃ value after, first server = (.done value, after) ∧
        (second value after).1 = .failed failure := by
  -- Only a result of the first call lets the second one run.
  unfold andThen at failed
  cases ran : first server with
  | mk outcome after =>
    rw [ran] at failed
    cases outcome with
    | done value => exact .inr ⟨value, after, rfl, failed⟩
    | failed given =>
      cases failed
      exact .inl rfl
    | stuck => cases failed

/-- A call after another fails only as one of the two does. -/
theorem Accepts.andThen {first : Session α} {second : α → Session β} (accepts : first.Accepts)
    (next : ∀ value, (second value).Accepts) : (first.andThen second).Accepts := by
  -- A failure of both is one of the first, or one of the second on what the first left.
  intro server failure failed
  rcases andThen_failed failed with early | ⟨value, after, _, late⟩
  · exact accepts server failure early
  · exact next value after failure late

/-- A statement fails as is said for it or with a timeout. -/
theorem send_failed {conditions : Conditions} {operation : String} {failure : StoreFault → Failure}
    {command : Command} {server : Server} {given : Failure}
    (failed : (send conditions operation failure command server).1 = .failed given) :
    (∃ fault, given = failure fault) ∨ given = .timeout operation conditions.table.name := by
  -- Of the replies only a fault and a hang are failures, and the hang only under a limit.
  unfold send at failed
  cases sent : server.send conditions.script conditions.reply command with
  | mk reply after =>
    rw [sent] at failed
    cases reply with
    | failed fault =>
      cases failed
      exact .inl ⟨fault, rfl⟩
    | hung =>
      dsimp only at failed
      split at failed
      · cases failed
        exact .inr rfl
      · cases failed
    | _ => cases failed

/-- A statement never fails for the description, if what is said for it is about something else. -/
theorem accepts_send (conditions : Conditions) (operation : String) {failure : StoreFault → Failure}
    (other : ∀ fault, (failure fault).concernsDescription = false) (command : Command) :
    (send conditions operation failure command).Accepts := by
  -- A statement fails for the store, or because the time was over.
  intro server given failed
  rcases send_failed failed with ⟨fault, rfl⟩ | rfl
  · exact other fault
  · rfl

/-- Giving up a transaction does not change how a call fails. -/
theorem Accepts.rollbackOpen {call : Session α} (accepts : call.Accepts) :
    (rollbackOpen call).Accepts :=
  -- To give up changes the server alone.
  fun server failure failed => accepts server failure failed

end Session

section Calls

variable {columns : List Column}

/-- Columns whose types are known have a type each. -/
theorem Column.storage_ok {types : List StorageType} (typed : storages columns = .ok types) :
    ∀ column ∈ columns, ∃ storage, column.storage = .ok storage := by
  -- The types go with the columns one by one.
  obtain ⟨names, storages⟩ := Reconciliation.zip_storages typed
  intro column member
  rw [← names] at member
  obtain ⟨entry, within, rfl⟩ := List.mem_map.mp member
  exact ⟨entry.2, storages entry within⟩

/-- The values of a record for columns that have types are never refused for the description. -/
theorem Statement.insert_accepted {types : List StorageType} (typed : Column.storages columns = .ok types)
    (reference : String) (record : Record) : Accepted (insert reference columns record) := by
  rw [insert_eq typed]
  exact (accepted_takeValues _ record).map _

end Calls

namespace Reconciliation

variable (conditions : Session.Conditions)

/-- To begin and to take the lock fails for its statements alone. -/
theorem begin_accepts : (begin conditions).Accepts := by
  -- The table says whether a lock is taken behind the first statement.
  unfold begin
  refine (Session.accepts_send _ _ (fun _ => rfl) _).andThen fun _ => ?_
  split
  · exact (Session.accepts_send _ _ (fun _ => rfl) _).andThen fun _ => Session.accepts_result ()
  · exact Session.accepts_result ()

/-- To ensure that there is a table fails for its statements alone. -/
theorem ensureTable_accepts (report : Report) : (ensureTable conditions report).Accepts := by
  -- The table is only created if the look has found none.
  unfold ensureTable
  refine (Session.accepts_send _ _ (fun _ => rfl) _).andThen fun reply => ?_
  dsimp only
  split
  · exact Session.accepts_result report
  · exact (Session.accepts_send _ _ (fun _ => rfl) _).andThen fun _ => Session.accepts_result _

/-- To ensure that there is a column with a known type fails for its statements alone. -/
theorem ensureColumn_accepts {column : Column} (typed : ∃ storage, column.storage = .ok storage)
    (report : Report) : (ensureColumn conditions report column).Accepts := by
  obtain ⟨storage, known⟩ := typed
  unfold ensureColumn
  rw [known]
  refine (Session.accepts_result storage).andThen fun storage => ?_
  refine (Session.accepts_send _ _ (fun _ => rfl) _).andThen fun reply => ?_
  -- A column that is there may have another type, which is reported and no failure.
  dsimp only
  split
  · split
    · exact Session.accepts_result report
    · exact Session.accepts_result _
  · exact (Session.accepts_send _ _ (fun _ => rfl) _).andThen fun _ => Session.accepts_result _

/-- To ensure that there are columns with known types fails for the statements alone. -/
theorem ensureColumns_accepts {columns : List Column}
    (typed : ∀ column ∈ columns, ∃ storage, column.storage = .ok storage) (report : Report) :
    (ensureColumns conditions report columns).Accepts := by
  -- The report grows from column to column, and no failure depends on it.
  induction columns generalizing report with
  | nil => exact Session.accepts_result report
  | cons column rest ih =>
    obtain ⟨head, tail⟩ := List.forall_mem_cons.mp typed
    exact (ensureColumn_accepts conditions head report).andThen fun next => ih tail next

/-- A reconciliation of columns that have types never fails for the description. -/
theorem run_accepts {columns : List Column}
    (typed : ∀ column ∈ columns, ∃ storage, column.storage = .ok storage) :
    (run conditions columns).Accepts := by
  -- A run is its parts in their order, and what is given up at its end is given up silently.
  refine Session.Accepts.rollbackOpen ((begin_accepts conditions).andThen fun _ => ?_)
  refine (ensureTable_accepts conditions .empty).andThen fun report => ?_
  refine (ensureColumns_accepts conditions typed report).andThen fun final => ?_
  exact (Session.accepts_send _ _ (fun _ => rfl) _).andThen fun _ => Session.accepts_result final

end Reconciliation

namespace ResultRow

/-- A row is never refused for the description by columns that have types. -/
theorem fill_accepted {columns : List Column}
    (typed : ∀ column ∈ columns, ∃ storage, column.storage = .ok storage) (table : String)
    (row : ResultRow) (record : Record) : Accepted (fill table row record columns) := by
  -- A column may be absent or of another type in the result; its own type is known.
  induction columns generalizing record with
  | nil => exact accepted_ok record
  | cons column rest ih =>
    obtain ⟨⟨storage, known⟩, tail⟩ := List.forall_mem_cons.mp typed
    unfold fill
    rw [known]
    dsimp only
    split
    · exact accepted_error rfl
    · exact ih tail _

/-- A row with columns that have types is never unreadable for the description. -/
theorem read_accepted {α : Type} {reader : RecordReader α} {columns : List Column}
    (typed : ∀ column ∈ columns, ∃ storage, column.storage = .ok storage)
    (taking : reader.FailsByTaking) (table : String) (row : ResultRow) :
    Accepted (read table columns reader row) := by
  -- The reader takes its fields from the record that was made of the row.
  have made := fill_accepted typed table row Dictionary.empty
  unfold read toRecord
  cases filled : fill table row Dictionary.empty columns with
  | error failure => exact accepted_error (made failure filled)
  | ok record => exact accepted_withTable (taking.accepted record) table

end ResultRow

namespace Statement

/-- Clauses are refused for an order against null alone. -/
theorem clauses_accepted (filters : List Filter) (number : Nat) :
    Accepted (clauses filters number).1 := by
  -- Only a clause with a value moves the number on for those behind it.
  induction filters generalizing number with
  | nil => exact accepted_ok _
  | cons filter rest ih =>
    unfold clauses
    split
    · exact accepted_error rfl
    · split
      · exact (ih number).map _
      · exact (ih (number + 1)).map _

/-- A condition is never refused for the description. -/
theorem condition_accepted (filters : List Filter) (number : Nat) :
    Accepted (condition filters number).1 := by
  -- Without clauses there is no condition, and with them it fails as they do.
  unfold condition
  split
  · exact accepted_ok none
  · exact (clauses_accepted filters number).map _

/-- The statement of a request is never refused for the description. -/
theorem select_accepted (reference : String) (columns : List Column) (request : Request) :
    Accepted (select reference columns request) := by
  -- Behind the condition the statement is text, and there is nothing left to refuse.
  unfold select
  cases bound : (condition request.filters 1).1 with
  | error failure => exact accepted_error (condition_accepted request.filters 1 failure bound)
  | ok bound => exact accepted_ok _

end Statement

/-- A repository whose columns have types never fails a later call for the description. -/
theorem Repository.calls_accept {α : Type} {reader : RecordReader α} (taking : reader.FailsByTaking)
    {repository : Repository} {types : List StorageType}
    (typed : Column.storages repository.columns = .ok types) :
    (∀ script, (repository.reconcile script).Accepts) ∧
      (∀ record reply, (repository.insert record reply).Accepts) ∧
      (∀ key reply, (repository.delete key reply).Accepts) ∧
      ∀ request reply, (repository.query reader request reply).Accepts := by
  -- A call builds its statement, sends it, and reads the rows that come back.
  have known := Column.storage_ok typed
  refine ⟨?_, ?_, ?_, ?_⟩
  · exact fun script => Reconciliation.run_accepts _ known
  · intro record reply
    refine (Session.accepts_ofExcept (Statement.insert_accepted typed _ record)).andThen fun built => ?_
    exact (Session.accepts_send _ _ (fun _ => rfl) _).andThen fun answer => Session.accepts_result _
  · intro key reply
    exact (Session.accepts_send _ _ (fun _ => rfl) _).andThen fun answer => Session.accepts_result _
  · intro request reply
    refine (Session.accepts_ofExcept (Statement.select_accepted _ _ request)).andThen fun built => ?_
    refine (Session.accepts_send _ _ (fun _ => rfl) _).andThen fun answer => ?_
    refine Session.accepts_ofExcept (accepted_mapM ?_)
    intro row _
    exact ResultRow.read_accepted known taking _ row

/--
A table in memory and a table on a server are refused for the same thing, the first that is wrong with
the description, and on the server before any statement is sent. A table that was made never fails for
its description again, whatever the later call, its reply and the state of the server.
-/
theorem description_settled_when_made {α : Type} (table : Table) (layout : Layout)
    {reader : RecordReader α} (taking : reader.FailsByTaking) :
    (∀ failure, MemoryTable.create table layout = .error failure ↔
      (descriptionFaults table layout).head? = some failure) ∧
    (∀ failure script server, MemoryTable.create table layout = .error failure →
      Repository.create table layout script server = (.failed failure, server)) ∧
    (∀ failure script (server after : Server), server.Idle →
      Repository.create table layout script server = (.failed failure, after) →
      after.log = server.log → MemoryTable.create table layout = .error failure) ∧
    (∀ held : MemoryTable, MemoryTable.Reached layout held →
      (∀ record, Accepted (held.insert record)) ∧
      ∀ request, Accepted (held.query reader request)) ∧
    ∀ repository script (server after : Server),
      Repository.create table layout script server = (.done repository, after) →
      (∀ script, (repository.reconcile script).Accepts) ∧
      (∀ record reply, (repository.insert record reply).Accepts) ∧
      (∀ key reply, (repository.delete key reply).Accepts) ∧
      ∀ request reply, (repository.query reader request reply).Accepts := by
  refine ⟨?_, ?_, ?_, ?_, ?_⟩
  · intro failure
    rw [MemoryTable.create_error, ← Repository.failure?_prepare, failure?_eq_some]
  · intro failure script server refused
    exact Repository.create_refused (MemoryTable.create_error.mp refused) script server
  · intro failure script server after idle failed silent
    -- An accepted description would have sent the statement that begins the transaction.
    cases prepared : Repository.prepare table layout with
    | ok columns =>
      refine absurd ?_ (Repository.create_logs prepared script idle)
      rw [failed]
      exact silent
    | error given =>
      rw [Repository.create_refused prepared] at failed
      cases failed
      exact MemoryTable.create_error.mpr prepared
  · -- In memory no call comes to look at a tag, a name or a type again.
    intro held _
    exact ⟨held.insert_accepted, held.query_accepted taking⟩
  · -- On the server calls do look at the types, and those were found when the columns were prepared.
    intro repository script server after done
    obtain ⟨prepared, _⟩ := Repository.create_done done
    obtain ⟨_, types, typed⟩ := Repository.prepare_ok prepared
    exact Repository.calls_accept taking typed

/-- A layout with a field without a tag, and behind it a bad name, a repeated one and two bad types. -/
def tornLayout : Layout := [.group "frame" [.field ⟨"name", some "id", .text, ⟨true, false, false⟩⟩,
    .field ⟨"scale", none, .bytes, .none⟩],
  .field ⟨"east", some "East", .text, .none⟩, .field ⟨"west", some "id", .bytes, .none⟩]

/-- The layout with nothing wrong. -/
def sheetLayout : Layout := [.group "frame" [.field ⟨"name", some "id", .text, ⟨true, false, false⟩⟩,
    .field ⟨"scale", some "scale", .signed 32, .none⟩]]

/-- The empty table of map sheets. -/
def sheetTable : MemoryTable := ⟨"sheets", [⟨"name", "id", .text, ⟨true, false, false⟩⟩,
  ⟨"scale", "scale", .signed 32, .none⟩], []⟩

/-- The server that the map sheets are on. -/
def sheetServer : Server := .start .reachable ⟨true, [("scale", "int8")]⟩

/-- The missing tag is what both say, and once the sheets are accepted no call says anything of the kind. -/
theorem description_settled_when_made_sheets :
    MemoryTable.create (.named "sheets") tornLayout = .error (.missingTag "scale") ∧
    Repository.create (.named "sheets") tornLayout [(.begin, .error "down")] sheetServer =
      (.failed (.missingTag "scale"), sheetServer) ∧
    MemoryTable.create (.named "sheets") sheetLayout = .ok sheetTable ∧
    (∀ record, Accepted (sheetTable.insert record)) ∧
    ∃ repository after,
      Repository.create (.named "sheets") sheetLayout [] sheetServer = (.done repository, after) ∧
      (∀ script, (repository.reconcile script).Accepts) ∧
      ∀ record reply, (repository.insert record reply).Accepts := by
  -- The torn layout is refused for its tag before the failing script is begun.
  have taking := ReadPlan.readout_failsByTaking [.field "name" .text]
  obtain ⟨first, both, _⟩ := description_settled_when_made (.named "sheets") tornLayout taking
  obtain ⟨_, _, _, inMemory, onServer⟩ :=
    description_settled_when_made (.named "sheets") sheetLayout taking
  have refused := (first (.missingTag "scale")).mpr rfl
  -- The good layout is accepted, and what was made of it accepts all calls.
  have created : MemoryTable.create (.named "sheets") sheetLayout = .ok sheetTable := rfl
  obtain ⟨repository, after, done⟩ : ∃ repository after,
      Repository.create (.named "sheets") sheetLayout [] sheetServer = (.done repository, after) :=
    ⟨_, _, rfl⟩
  obtain ⟨again, inserting, _⟩ := onServer repository [] sheetServer after done
  exact ⟨refused, both _ _ _ refused, created, (inMemory sheetTable (.created created)).1,
    repository, after, done, again, inserting⟩

end RecordTables
