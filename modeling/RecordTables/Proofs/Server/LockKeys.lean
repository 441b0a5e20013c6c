import RecordTables.Proofs.Server.Sent
import RecordTables.Proofs.Server.Steps
import RecordTables.Proofs.Statement.Names
import RecordTables.Server.Reconciliation

/-!
Table references tell tables and schemas apart whatever their names hold, and so do the keys of the locks
under which tables are reconciled.
-/

namespace RecordTables

/-- Two tables have the same reference exactly if they have the same name in the same schema. -/
theorem Table.reference_eq_iff {table other : Table} :
    table.reference = other.reference ↔ table.schema = other.schema ∧ table.name = other.name := by
  constructor
  · intro same
    -- The reference is read back, and there is one reading only.
    have read : ∀ table : Table, Statement.readReference? table.reference.toList =
        some (table.schema, table.name, []) := by
      intro table
      have whole : Statement.readReference? (table.reference.toList ++ []) =
          some (table.schema, table.name, []) :=
        Statement.readReference?_qualify table.schema table.name (by simp) (by simp)
      rwa [List.append_nil] at whole
    have readings := read table
    rw [same, read other, Option.some.injEq, Prod.mk.injEq, Prod.mk.injEq] at readings
    exact ⟨readings.1.symm, readings.2.1.symm⟩
  · rintro ⟨schema, name⟩
    unfold Table.reference
    rw [schema, name]

namespace Reconciliation

open Session

section Logs

variable {allowed : LogEntry → Prop} {conditions : Conditions}
variable (begins : allowed Command.begin.logEntry)
variable (locks : allowed (Command.lock conditions.table.reference).logEntry)
variable (looks : allowed (Command.tableCheck conditions.table.name conditions.table.schema).logEntry)
variable (creates : allowed (Command.createTable (Statement.createTable conditions.table)).logEntry)
variable (checks : ∀ column, allowed
  (Command.columnCheck conditions.table.name conditions.table.schema column).logEntry)
variable (adds : ∀ column storage, allowed
  (Command.addColumn column.name (Statement.addColumn conditions.table column storage)).logEntry)
variable (commits : allowed Command.commit.logEntry)

include begins locks in
/-- The beginning of a reconciliation logs that it begins and takes the lock. -/
theorem begin_logsOnly : (begin conditions).LogsOnly allowed := by
  -- The table says whether a lock is taken behind the first statement.
  refine (logsOnly_send _ _ _ begins).andThen fun _ => ?_
  split
  · exact (logsOnly_send _ _ _ locks).andThen fun _ => logsOnly_result ()
  · exact logsOnly_result ()

include looks creates in
/-- Ensuring that there is a table logs the look for it and its creation. -/
theorem ensureTable_logsOnly (report : Report) : (ensureTable conditions report).LogsOnly allowed := by
  -- The table is only created if the look has found none.
  refine (logsOnly_send _ _ _ looks).andThen fun reply => ?_
  dsimp only
  split
  · exact logsOnly_result report
  · exact (logsOnly_send _ _ _ creates).andThen fun _ => logsOnly_result _

include checks adds in
/-- Ensuring that there is a column logs the look for it and its addition. -/
theorem ensureColumn_logsOnly (report : Report) (column : Column) :
    (ensureColumn conditions report column).LogsOnly allowed := by
  refine (logsOnly_ofExcept column.storage).andThen fun storage => ?_
  refine (logsOnly_send _ _ _ (checks column.name)).andThen fun reply => ?_
  -- A column is only added if the look has found none, and a drift is reported without a statement.
  dsimp only
  split
  · split
    · exact logsOnly_result report
    · exact logsOnly_result _
  · exact (logsOnly_send _ _ _ (adds column storage)).andThen fun _ => logsOnly_result _

include checks adds in
/-- Ensuring that there are columns logs the look for each and its addition. -/
theorem ensureColumns_logsOnly (columns : List Column) (report : Report) :
    (ensureColumns conditions report columns).LogsOnly allowed := by
  -- The report grows from column to column, and no entry depends on it.
  induction columns generalizing report with
  | nil => exact logsOnly_result report
  | cons column rest ih => exact (ensureColumn_logsOnly checks adds report column).andThen ih

include looks creates checks adds commits in
/-- What follows the beginning logs what is done for the table and its columns, and the commit. -/
theorem body_logsOnly (columns : List Column) :
    ((ensureTable conditions .empty).andThen fun report =>
      (ensureColumns conditions report columns).andThen (commit conditions)).LogsOnly allowed := by
  -- The parts follow one another, each with its own statements.
  refine (ensureTable_logsOnly looks creates .empty).andThen fun report => ?_
  refine (ensureColumns_logsOnly checks adds columns report).andThen fun final => ?_
  exact (logsOnly_send _ _ _ commits).andThen fun _ => logsOnly_result final

include begins locks looks creates checks adds commits in
/-- What is said of each kind of statement that a reconciliation sends is said of all that it logs. -/
theorem run_logsOnly (columns : List Column) : (run conditions columns).LogsOnly allowed :=
  LogsOnly.rollbackOpen <|
    (begin_logsOnly begins locks).andThen fun _ => body_logsOnly looks creates checks adds commits columns

end Logs

/-- A statement that takes a lock has the reference of the table for its key. -/
def LocksFor (table : Table) (entry : LogEntry) : Prop :=
  entry.sql = Statement.advisoryLock → entry.params = [.ofText? table.reference]

/-- A reconciliation takes no lock but that of its table. -/
theorem run_locksFor (conditions : Conditions) (columns : List Column) :
    (run conditions columns).LogsOnly (LocksFor conditions.table) := by
  -- The text of every other statement differs from that of the lock, mostly in the first letter already.
  have tables : Statement.tableExists ≠ Statement.advisoryLock := by decide
  have types : Statement.columnType ≠ Statement.advisoryLock := by decide
  have letter : ∀ {text : String}, text.toList.head? ≠ some 'S' → text ≠ Statement.advisoryLock := by
    rintro _ different rfl
    exact different rfl
  have creates : Statement.createTable conditions.table ≠ Statement.advisoryLock :=
    letter (by simp [Statement.createTable])
  have adds : ∀ column storage,
      Statement.addColumn conditions.table column storage ≠ Statement.advisoryLock :=
    fun column storage => letter (by simp [Statement.addColumn])
  refine run_logsOnly ?_ (fun _ => rfl) ?_ ?_ (fun column => ?_) (fun column storage => ?_) ?_ columns
  · exact fun same => absurd same (letter (by decide))
  · exact fun same => absurd same tables
  · exact fun same => absurd same creates
  · exact fun same => absurd same types
  · exact fun same => absurd same (adds column storage)
  · exact fun same => absurd same (letter (by decide))

/-- A reconciliation that is done has taken the lock of its table, if the table asks for it. -/
theorem lock_mem_sent {conditions : Conditions} {columns : List Column} {server after : Server}
    {report : Report} (done : run conditions columns server = (.done report, after))
    (locked : conditions.table.advisoryLock = true) :
    (Command.lock conditions.table.reference).logEntry ∈ (run conditions columns).sent server := by
  obtain ⟨last, carried, rfl⟩ := rollbackOpen_done done
  obtain ⟨_, between, opened, rest⟩ := andThen_done carried
  -- The lock is logged behind the statement that begins, and everything else behind the lock.
  obtain ⟨_, begun, beginning, locking⟩ := andThen_done opened
  rw [if_pos locked] at locking
  obtain ⟨_, taken, taking, ended⟩ := andThen_done locking
  cases ended
  have body : ((ensureTable conditions .empty).andThen fun report =>
      (ensureColumns conditions report columns).andThen (commit conditions)).LogsOnly fun _ => True :=
    body_logsOnly trivial trivial (fun _ => trivial) (fun _ _ => trivial) trivial columns
  obtain ⟨entries, log, _⟩ := body between
  rw [rest] at log
  unfold sent
  rw [done, Server.rollback_log, log, send_done_log taking, send_done_log beginning, List.append_assoc, List.append_assoc,
    List.drop_left]
  simp

end Reconciliation

/--
Two tables have the same reference exactly if they have the same name in the same schema, whatever
characters the names hold. So two reconciliations take their locks under the same key exactly if they are of
such tables, and each that is done has taken its lock if the table asks for it. A quoted name is read
exactly where it stands and no quote follows it, and gives back the name and what follows.
-/
theorem Table.references_unambiguous :
    (∀ table other : Table,
      table.reference = other.reference ↔ table.schema = other.schema ∧ table.name = other.name) ∧
    (∀ (conditions others : Session.Conditions) columns otherColumns server otherServer,
      ∀ entry ∈ (Reconciliation.run conditions columns).sent server,
        entry.sql = Statement.advisoryLock →
          ∀ other ∈ (Reconciliation.run others otherColumns).sent otherServer,
            other.sql = Statement.advisoryLock →
              (entry.params = other.params ↔ conditions.table.schema = others.table.schema ∧
                conditions.table.name = others.table.name)) ∧
    (∀ conditions columns server report after,
      Reconciliation.run conditions columns server = (.done report, after) →
        conditions.table.advisoryLock = true →
          ∃ entry ∈ (Reconciliation.run conditions columns).sent server,
            entry.sql = Statement.advisoryLock ∧
            entry.params = [.ofText? conditions.table.reference]) ∧
    ∀ text name after, Identifier.unquote? text = some (name, after) ↔
      text = (Identifier.quote name).toList ++ after ∧ after.head? ≠ some '"' := by
  refine ⟨fun _ _ => reference_eq_iff, ?_, ?_, fun _ _ _ => Identifier.unquote?_eq_some⟩
  · intro conditions others columns otherColumns server otherServer entry sent locks other sentToo locksToo
    -- Each lock is that of its own table, and a bound text is the same only for the same text.
    have key := (Reconciliation.run_locksFor conditions columns).sent sent locks
    have otherKey := (Reconciliation.run_locksFor others otherColumns).sent sentToo locksToo
    rw [key, otherKey, ← reference_eq_iff]
    simp [BoundValue.ofText?]
  · intro conditions columns server report after done locked
    exact ⟨_, Reconciliation.lock_mem_sent done locked, rfl, rfl⟩

/-- A table in a schema. -/
def vaultTable : Table := (Table.named "coins").withSchema "vault"

/-- A table whose name looks like the reference of the other one. -/
def forgedTable : Table := Table.named "vault\".\"coins"

/-- The forged name is no reference to the table in the schema, and locks are taken under another key. -/
theorem references_unambiguous_vault :
    vaultTable.reference ≠ forgedTable.reference ∧
    Identifier.unquote? forgedTable.reference.toList = some ("vault\".\"coins", []) ∧
    ∃ entry ∈ (Reconciliation.run ⟨[], .affected 0, vaultTable⟩ []).sent (.start .reachable ⟨true, []⟩),
      ∃ other ∈ (Reconciliation.run ⟨[], .affected 0, forgedTable⟩ []).sent (.start .reachable ⟨true, []⟩),
        entry.sql = Statement.advisoryLock ∧ other.sql = Statement.advisoryLock ∧
        entry.params ≠ other.params := by
  obtain ⟨references, keys, locks, quoted⟩ := Table.references_unambiguous
  -- The quotes in the forged name are doubled, so that the references can only be told
  -- apart by their parts.
  have apart : ¬ (vaultTable.schema = forgedTable.schema ∧ vaultTable.name = forgedTable.name) := by decide
  obtain ⟨entry, sent, locking, _⟩ :=
    locks ⟨[], .affected 0, vaultTable⟩ [] (.start .reachable ⟨true, []⟩) _ _ rfl rfl
  obtain ⟨other, sentToo, lockingToo, _⟩ :=
    locks ⟨[], .affected 0, forgedTable⟩ [] (.start .reachable ⟨true, []⟩) _ _ rfl rfl
  refine ⟨mt (references _ _).mp apart, (quoted _ _ _).mpr ⟨by decide, by decide⟩, entry, sent, other,
    sentToo, locking, lockingToo, ?_⟩
  exact mt (keys _ _ _ _ _ _ entry sent locking other sentToo lockingToo).mp apart

end RecordTables
