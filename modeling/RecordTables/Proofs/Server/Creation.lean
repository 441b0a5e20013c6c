import RecordTables.Proofs.Server.Growth
import RecordTables.Server.Repository

/-! Making a repository prepares the columns of its layout, and comes to what their reconciliation comes to. -/

namespace RecordTables

namespace Repository

variable {table : Table} {layout : Layout} {columns : List Column} {server after : Server}

/-- What is prepared is the columns of a layout, and all of them have types. -/
theorem prepare_ok (prepared : prepare table layout = .ok columns) :
    layout.columns = .ok columns ∧ ∃ types, Column.storages columns = .ok types := by
  -- The columns are those of the layout, once the names are found good.
  unfold prepare at prepared
  split at prepared
  · cases prepared
  · split at prepared
    · cases prepared
    · rename_i found flattened
      cases typed : Column.storages found with
      | error failure => simp [typed, Except.map] at prepared
      | ok types =>
        simp only [typed, Except.map, Except.ok.injEq] at prepared
        subst prepared
        exact ⟨flattened, types, typed⟩

/-- Columns are prepared only for a table whose names are found good. -/
theorem validate_of_prepare (prepared : prepare table layout = .ok columns) :
    table.validate = .ok () := by
  -- The name is looked at before anything else.
  unfold prepare at prepared
  split at prepared
  · cases prepared
  · assumption

/-- A description that is refused is refused before any statement is sent. -/
theorem create_refused {failure : Failure} (refused : prepare table layout = .error failure)
    (script : Script) (server : Server) :
    create table layout script server = (.failed failure, server) := by
  unfold create
  rw [refused]
  rfl

/-- With columns prepared, making a repository comes to what their reconciliation comes to. -/
theorem create_prepared (prepared : prepare table layout = .ok columns) (script : Script)
    (server : Server) :
    create table layout script server =
      ((Reconciliation.run ⟨script, .affected 0, table⟩ columns).andThen fun report =>
        Session.result ⟨table, columns, report⟩) server := by
  unfold create
  rw [prepared]
  rfl

/-- With columns prepared, making a repository leaves the server as their reconciliation does. -/
theorem create_server (prepared : prepare table layout = .ok columns) (script : Script)
    (server : Server) :
    (create table layout script server).2 =
      (Reconciliation.run ⟨script, .affected 0, table⟩ columns server).2 := by
  -- Nothing is sent behind the reconciliation.
  rw [create_prepared prepared]
  unfold Session.andThen
  cases Reconciliation.run ⟨script, .affected 0, table⟩ columns server with
  | mk outcome after => cases outcome <;> rfl

/-- A repository is made as planned when all statements of the plan are spared. -/
theorem create_spared {types : List StorageType} {script : Script}
    (prepared : prepare table layout = .ok columns) (typed : Column.storages columns = .ok types)
    (reachable : server.link = .reachable)
    (spared : ∀ step ∈ Reconciliation.steps table server.catalog (columns.zip types),
      Session.Spared script step) :
    create table layout script server =
      (.done ⟨table, columns, Reconciliation.planReport table server.catalog (columns.zip types)⟩,
        ⟨.reachable, Reconciliation.planCatalog server.catalog (columns.zip types), none,
          server.log ++
            Step.log (Reconciliation.steps table server.catalog (columns.zip types))⟩) := by
  -- Preparation sends nothing, and the reconciliation of what is prepared is the spared run of the plan.
  have ran : Reconciliation.run ⟨script, .affected 0, table⟩ columns server = _ :=
    Reconciliation.run_spared (prepare_ok prepared).1 typed reachable spared
  rw [create_prepared prepared]
  unfold Session.andThen
  rw [ran]
  rfl

/-- A repository that is made has the prepared columns and the report of their reconciliation. -/
theorem create_done {script : Script} {repository : Repository}
    (done : create table layout script server = (.done repository, after)) :
    prepare table layout = .ok repository.columns ∧ repository.table = table ∧
      Reconciliation.run ⟨script, .affected 0, table⟩ repository.columns server =
        (.done repository.report, after) := by
  -- Without prepared columns there is no repository, and with them it is made from the report of the run.
  cases prepared : prepare table layout with
  | error failure =>
    rw [create_refused prepared] at done
    cases done
  | ok columns =>
    rw [create_prepared prepared] at done
    obtain ⟨report, _, ran, ended⟩ := Session.andThen_done done
    cases ended
    exact ⟨rfl, rfl, ran⟩

end Repository

/-- To make a repository, for whatever layout and however it ends, is at most one more reconciliation. -/
theorem Reconciliation.Followed.create {server later : Server} (followed : Followed server later)
    (table : Table) (layout : Layout) (script : Script) :
    Followed server (Repository.create table layout script later).2 := by
  -- A refused description sends nothing at all, and any other is reconciled once.
  cases prepared : Repository.prepare table layout with
  | error failure =>
    rw [Repository.create_refused prepared]
    exact followed
  | ok columns =>
    obtain ⟨flattened, types, typed⟩ := Repository.prepare_ok prepared
    rw [Repository.create_server prepared]
    exact followed.again _ flattened typed

end RecordTables
