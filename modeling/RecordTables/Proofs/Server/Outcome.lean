import RecordTables.Proofs.Server.Plan

/-! How a reconciliation ends: with its whole plan done, or at the first mishap with nothing changed but the log. -/

namespace RecordTables

namespace Reconciliation

open Session

/-- The statements inside the transaction neither begin nor commit it. -/
theorem innerSteps_inside (table : Table) (catalog : Catalog) (entries : List (Column × StorageType)) :
    ∀ step ∈ innerSteps table catalog entries, step.place ≠ .begin ∧ step.place ≠ .commit :=
  -- The places between the two ends are those of the lock, the table and the columns.
  forall_innerSteps table catalog ⟨nofun, nofun⟩ ⟨nofun, nofun⟩ ⟨nofun, nofun⟩
    (fun _ => ⟨nofun, nofun⟩) (fun _ _ => ⟨nofun, nofun⟩) entries

/-- What comes before a statement of the plan, apart from the beginning, is inside the transaction. -/
theorem before_inside {table : Table} {catalog : Catalog} {entries : List (Column × StorageType)}
    {first : Step} {before behind : List Step} {step : Step}
    (split : steps table catalog entries = first :: before ++ step :: behind) :
    first = beginStep table ∧ ∀ earlier ∈ before, earlier.place ≠ .begin ∧ earlier.place ≠ .commit := by
  -- The plan begins in one way, and what follows is cut off before its end.
  simp only [steps, List.cons_append, List.cons.injEq] at split
  obtain ⟨begins, split⟩ := split
  refine ⟨begins.symm, ?_⟩
  -- The last statement of the plan is not among those before another one.
  have kept := congrArg List.dropLast split
  rw [List.dropLast_concat, List.dropLast_append_of_ne_nil (List.cons_ne_nil step behind)] at kept
  intro earlier member
  exact innerSteps_inside table catalog entries earlier
    (kept ▸ List.mem_append_left _ member)

/-- After a mishap nothing but the log has changed. -/
theorem rollback_before {server : Server} {table : Table} {entries : List (Column × StorageType)}
    {before behind : List Step} {step : Step} (closed : server.saved = none)
    (split : steps table server.catalog entries = before ++ step :: behind) :
    ((server.acceptAll before).record step.command).rollback =
      { server with log := server.log ++ Step.log (before ++ [step]) } := by
  -- The transaction, if it was begun at all, has kept the catalog from its beginning.
  have log : ((server.acceptAll before).record step.command).log =
      server.log ++ Step.log (before ++ [step]) := by
    simp [Server.record, Server.acceptAll_log, Step.log]
  have link : ((server.acceptAll before).record step.command).link = server.link :=
    Server.acceptAll_link server before
  cases before with
  | nil =>
    -- Without a transaction there is nothing to give up.
    unfold Server.rollback
    simp only [Server.acceptAll, List.foldl_nil, Server.record, closed]
    rfl
  | cons first rest =>
    obtain ⟨rfl, inside⟩ := before_inside split
    have saved : ((server.acceptAll (beginStep table :: rest)).record step.command).saved =
        some server.catalog := Server.acceptAll_saved (server.accept (beginStep table)) inside
    unfold Server.rollback
    simp only [saved, log, link, closed]

section Run

variable {layout : Layout} {columns : List Column} {types : List StorageType}
  {conditions : Conditions} {server : Server}
  (flattened : layout.columns = .ok columns) (typed : Column.storages columns = .ok types)
  (reachable : server.link = .reachable)

include flattened typed reachable

/-- A reconciliation whose statements are all spared is done as planned. -/
theorem run_spared (spared : ∀ step ∈ steps conditions.table server.catalog (columns.zip types),
      Spared conditions.script step) :
    run conditions columns server =
      (.done (planReport conditions.table server.catalog (columns.zip types)),
        ⟨.reachable, planCatalog server.catalog (columns.zip types), none,
          server.log ++ Step.log (steps conditions.table server.catalog (columns.zip types))⟩) := by
  -- The plan is carried out to its end, where the commit has left nothing open to be given up.
  rw [run_eq reachable (Layout.columns_nodup flattened) typed]
  unfold rollbackOpen andThen
  rw [carryOut_spared reachable spared, acceptAll_steps, reachable]
  rfl

/-- A reconciliation that a mishap cuts short has logged the statements up to it and changed nothing. -/
theorem run_mishap (closed : server.saved = none) {before behind : List Step} {step : Step}
    {mishap : Mishap}
    (split : steps conditions.table server.catalog (columns.zip types) = before ++ step :: behind)
    (spared : ∀ step ∈ before, Spared conditions.script step)
    (found : Server.mishap? conditions.script step.command = some mishap) :
    run conditions columns server =
      (ending conditions step mishap,
        { server with log := server.log ++ Step.log (before ++ [step]) }) := by
  -- The plan is carried out up to the mishap, and the call gives up what was done.
  rw [run_eq reachable (Layout.columns_nodup flattened) typed, ← rollback_before closed split]
  unfold rollbackOpen
  rw [split, andThen_ending (carryOut_mishap reachable spared found)]

/-- A reconciliation either is done as planned, or is cut short and has changed nothing but the log. -/
theorem run_cases (conditions : Conditions) (closed : server.saved = none) :
    run conditions columns server =
      (.done (planReport conditions.table server.catalog (columns.zip types)),
        ⟨.reachable, planCatalog server.catalog (columns.zip types), none,
          server.log ++ Step.log (steps conditions.table server.catalog (columns.zip types))⟩) ∨
    ∃ step mishap entries, run conditions columns server =
      (ending conditions step mishap, { server with log := server.log ++ entries }) := by
  -- Either all statements of the plan are spared, or there is a first mishap.
  rcases spared_or_mishap conditions.script
      (steps conditions.table server.catalog (columns.zip types)) with
    spared | ⟨before, step, behind, mishap, split, spared, found⟩
  · exact Or.inl (run_spared flattened typed reachable spared)
  · exact Or.inr ⟨step, mishap, Step.log (before ++ [step]),
      run_mishap flattened typed reachable closed split spared found⟩

end Run

end Reconciliation

end RecordTables
