import RecordTables.Proofs.Memory.Consistency
import RecordTables.Proofs.Memory.RequestFaults
import RecordTables.Proofs.Statement.Composition

/-!
A request is refused for the first thing that is wrong with it, which the columns alone decide: the rows
have no part in it. Where all its columns are known, the statement of the request is refused for the same.
-/

namespace RecordTables

/-- Whether a failure says that a request is refused. -/
def Failure.refusesRequest : Failure → Bool
  | .unknownColumn _ _ => true
  | .invalidFilter _ _ => true
  | _ => false

/-- What is said about a fault says that a request is refused. -/
theorem RequestFault.refusesRequest_failure (fault : RequestFault) (table : String) :
    (fault.failure table).refusesRequest = true := by
  cases fault <;> rfl

namespace MemoryTable

variable {table : MemoryTable} {request : Request}

/-- A query is refused for the first thing that is wrong with its request, whatever rows there are to read. -/
theorem query_refused {fault : RequestFault}
    (first : (request.faults (table.columns.map (·.name))).head? = some fault)
    {α : Type} (reader : RecordReader α) :
    table.query reader request = .error (fault.failure table.name) := by
  -- The request is checked before any row is looked at.
  have refused : table.checkRequest request = .error (fault.failure table.name) := by
    rw [← failure?_eq_some, table.failure?_checkRequest, first, Option.map_some]
  simp only [query, select, refused, Except.map]

/-- The rows that match a request are rows of the table, and so are those in its window. -/
theorem mem_of_mem_window {rows : List Row} {row : Row}
    (member : row ∈ window request (matching request rows)) : row ∈ rows := by
  have within : row ∈ matching request rows := by
    unfold window at member
    split at member
    · exact List.mem_of_mem_drop (List.mem_of_mem_take member)
    · exact List.mem_of_mem_drop member
  -- Sorting only rearranges the rows that pass the filters.
  unfold matching at within
  split at within
  · exact (List.mem_filter.mp within).1
  · exact (List.mem_filter.mp ((List.mergeSort_perm _ _).mem_iff.mp within)).1

/-- A query with nothing wrong in its request fails only as the reading of a stored row fails. -/
theorem readRow_of_query {α : Type} {reader : RecordReader α} {failure : Failure}
    (sound : request.faults (table.columns.map (·.name)) = [])
    (failed : table.query reader request = .error failure) :
    ∃ row ∈ table.rows, table.readRow reader row = .error failure := by
  simp only [query, select, checkRequest_ok_iff.mpr sound, Except.map] at failed
  -- The failure of all is that of the first row that cannot be read.
  rw [← failure?_eq_some, failure?_mapM] at failed
  obtain ⟨row, member, unread⟩ := List.exists_of_findSome?_eq_some failed
  exact ⟨row, mem_of_mem_window member, failure?_eq_some.mp unread⟩

/-- Naming the table in a failure does not change whether a request is refused. -/
theorem refusesRequest_withTable (name : String) (failure : Failure) :
    (failure.withTable name).refusesRequest = failure.refusesRequest := by
  -- Only a row that cannot be read is given the name of its table, if it has none yet.
  cases failure with
  | rowScan table column reason =>
    by_cases unnamed : table = "" <;> simp [Failure.withTable, Failure.refusesRequest, unnamed]
  | _ => rfl

/-- A query is refused exactly for the first thing that is wrong with its request, if no reader refuses requests. -/
theorem query_refused_iff {α : Type} {reader : RecordReader α}
    (reading : ∀ record failure, (reader record).1 = .error failure → failure.refusesRequest = false)
    {failure : Failure} (refuses : failure.refusesRequest = true) :
    table.query reader request = .error failure ↔
      ∃ fault, (request.faults (table.columns.map (·.name))).head? = some fault ∧
        failure = fault.failure table.name := by
  constructor
  · intro failed
    cases first : (request.faults (table.columns.map (·.name))).head? with
    | some fault =>
      rw [query_refused first reader, Except.error.injEq] at failed
      exact ⟨fault, rfl, failed.symm⟩
    | none =>
      obtain ⟨row, _, unread⟩ := readRow_of_query (List.head?_eq_none_iff.mp first) failed
      unfold readRow at unread
      cases read : (reader (row.toRecord table.columns)).1 with
      | ok item => rw [read] at unread; cases unread
      | error raised =>
        -- The reader raised the failure, but for the name of the table.
        rw [read, Except.mapError, Except.error.injEq] at unread
        rw [← unread, refusesRequest_withTable, reading _ raised read] at refuses
        cases refuses
  · rintro ⟨fault, first, rfl⟩
    exact query_refused first reader

/-- Filters on known columns are faulty from the first on that asks for an order against null. -/
theorem head?_faults_known {known : List String} {request : Request}
    (columns : ∀ filter ∈ request.filters, filter.column ∈ known)
    (sort : ∀ column, request.sortColumn? = some column → column ∈ known) :
    (request.faults known).head? =
      (request.filters.find? Filter.ordersNull).map RequestFault.ofNullOrder := by
  -- No column is at fault, neither that of a filter nor that of the order.
  have sorted : request.sortColumn?.toList.flatMap (RequestFault.ofColumn known) = [] := by
    refine List.flatMap_eq_nil_iff.mpr fun column member => ?_
    exact if_pos (sort column (Option.mem_toList.mp member))
  rw [Request.faults, sorted, List.append_nil]
  generalize request.filters = filters at columns
  induction filters with
  | nil => rfl
  | cons filter rest ih =>
    obtain ⟨head, tail⟩ := List.forall_mem_cons.mp columns
    rw [List.flatMap_cons, List.head?_append, ih tail, List.find?_cons, Filter.faults,
      RequestFault.ofColumn, if_pos head]
    cases filter.ordersNull <;> rfl

/-- The statement of a request is refused for the first filter that asks for an order against null. -/
theorem failure?_select (reference : String) (columns : List Column) (request : Request) :
    failure? (Statement.select reference columns request) =
      (request.filters.find? Filter.ordersNull).map Filter.nullFailure := by
  -- Only the condition can fail, and the filters in front of the first such one leave it as it is.
  unfold Statement.select
  rcases Statement.unordered_or_refused request.filters with
    unordered | ⟨before, filter, behind, split, spared, ordered⟩
  · have none : request.filters.find? Filter.ordersNull = none :=
      List.find?_eq_none.mpr fun filter member => by simp [unordered filter member]
    rw [Statement.condition_spared unordered, none]
    rfl
  · have found : request.filters.find? Filter.ordersNull = some filter :=
      List.find?_eq_some_iff_append.mpr
        ⟨ordered, before, behind, split, fun earlier member => by simp [spared earlier member]⟩
    rw [found, split, Statement.condition_refused spared ordered]
    rfl

/--
A request with something wrong is refused for the first of it: of its filters in their order, each for an
unknown column before an order against null, and then of its sort column. So it is on every table of the
layout, under the name of the table, and whatever rows there are; with nothing wrong, a query can fail only
in reading a row. If the reader itself refuses no request, the queries on two tables are therefore
refused for the same, and where all columns are known, exactly if the statement is, and for the same.
-/
theorem requests_refused_alike {α : Type} {layout : Layout} {table other : MemoryTable}
    (reached : Reached layout table) (reachedOther : Reached layout other) (reader : RecordReader α)
    (request : Request) :
    (∀ fault : RequestFault, (request.faults (table.columns.map (·.name))).head? = some fault →
      table.query reader request = .error (fault.failure table.name) ∧
        other.query reader request = .error (fault.failure other.name)) ∧
    (request.faults (table.columns.map (·.name)) = [] → ∀ failure,
      table.query reader request = .error failure →
        ∃ row ∈ table.rows, table.readRow reader row = .error failure) ∧
    ((∀ record failure, (reader record).1 = .error failure → failure.refusesRequest = false) →
      (∀ fault : RequestFault, table.query reader request = .error (fault.failure table.name) ↔
        other.query reader request = .error (fault.failure other.name)) ∧
      (∀ failure, failure.refusesRequest = true → (table.query reader request = .error failure ↔
        ∃ fault, (request.faults (table.columns.map (·.name))).head? = some fault ∧
          failure = fault.failure table.name)) ∧
      ((∀ filter ∈ request.filters, filter.column ∈ table.columns.map (·.name)) →
        (∀ column, request.sortColumn? = some column → column ∈ table.columns.map (·.name)) →
        ∀ reference failure, Statement.select reference table.columns request = .error failure ↔
          (∃ field reason, failure = .invalidFilter field reason) ∧
            table.query reader request = .error failure)) := by
  -- Both tables have the columns of the layout, and nothing else of them is looked at.
  have columns : other.columns = table.columns :=
    Except.ok.inj (reachedOther.consistent.1.symm.trans reached.consistent.1)
  refine ⟨fun fault first => ⟨query_refused first reader, query_refused (columns ▸ first) reader⟩,
    fun sound failure failed => readRow_of_query sound failed, fun reading => ?_⟩
  -- A fault is said to be the failure of a query exactly if it is the first one.
  have settled : ∀ {held : MemoryTable}, held.columns = table.columns → ∀ fault : RequestFault,
      held.query reader request = .error (fault.failure held.name) ↔
        (request.faults (table.columns.map (·.name))).head? = some fault := by
    intro held same fault
    rw [query_refused_iff reading (fault.refusesRequest_failure held.name), same]
    constructor
    · rintro ⟨first, found, failure⟩
      rwa [RequestFault.failure_injective failure]
    · exact fun found => ⟨fault, found, rfl⟩
  refine ⟨fun fault => (settled rfl fault).trans (settled columns fault).symm,
    fun failure refuses => query_refused_iff reading refuses, ?_⟩
  intro known sort reference failure
  -- With all columns known, the first fault and the failure of the statement are of one filter.
  rw [← failure?_eq_some, failure?_select, Option.map_eq_some_iff]
  have faults := head?_faults_known known sort
  constructor
  · rintro ⟨filter, found, rfl⟩
    rw [found, Option.map_some] at faults
    exact ⟨⟨_, _, rfl⟩, (settled rfl (.ofNullOrder filter)).mpr faults⟩
  · rintro ⟨⟨field, reason, rfl⟩, failed⟩
    have first := (settled rfl (.invalidFilter field reason)).mp failed
    obtain ⟨filter, found, same⟩ := Option.map_eq_some_iff.mp (faults.symm.trans first)
    exact ⟨filter, found, congrArg (RequestFault.failure table.name) same⟩

open MemoryHandles (games gameLayout gameRecord)

/-- A request for games without a key, and with a score above null. -/
def faultyScores : Request := { Request.everything with
  filters := [⟨"id", .equal, .null⟩, ⟨"score", .greater, .null⟩] }

/-- Games are asked for faultily whether there are any or not, and also in the statement. -/
theorem requests_refused_alike_games :
    let refusal := Failure.invalidFilter "score" "operator > cannot compare against NULL"
    ∃ filled, games.insert (gameRecord "a" .nan) = .ok (1, filled) ∧
      filled.query (ReadPlan.readout []) faultyScores = .error refusal ∧
      games.query (ReadPlan.readout []) faultyScores = .error refusal ∧
      Statement.select (Table.named "games").reference games.columns faultyScores =
        .error refusal := by
  intro refusal
  have created : MemoryTable.create (.named "games") gameLayout = .ok games := rfl
  obtain ⟨filled, insertion⟩ : ∃ filled, games.insert (gameRecord "a" .nan) = .ok (1, filled) :=
    ⟨_, rfl⟩
  obtain ⟨refused, _, alike⟩ := requests_refused_alike (.created created)
    (.inserted (.created created) insertion) (ReadPlan.readout []) faultyScores
  obtain ⟨empty, some⟩ := refused (.invalidFilter _ _) rfl
  -- The plan without steps reads every row, and both columns are those of games.
  obtain ⟨_, _, stated⟩ := alike fun _ _ impossible => nomatch impossible
  have compiled := stated (by decide) (fun _ impossible => nomatch impossible)
  exact ⟨filled, insertion, some, empty, (compiled _ refusal).mpr ⟨⟨_, _, rfl⟩, empty⟩⟩

end MemoryTable

end RecordTables
