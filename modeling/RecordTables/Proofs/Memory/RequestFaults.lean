import RecordTables.Memory.Table
import RecordTables.Proofs.Column.Faults

/-!
Everything that is wrong with a request, given the columns that are known; a request is refused for the first
of it, and has to be accepted if there is nothing.
-/

namespace RecordTables

/-- What can be wrong with a request, on whatever table it is made. -/
inductive RequestFault where
  | unknownColumn (column : String)
  | invalidFilter (field reason : String)

/-- What is said when a request is refused for a fault. -/
def RequestFault.failure (table : String) : RequestFault → Failure
  | .unknownColumn column => .unknownColumn table column
  | .invalidFilter field reason => .invalidFilter field reason

/-- The fault of a column that is not known. -/
def RequestFault.ofColumn (known : List String) (column : String) : List RequestFault :=
  if column ∈ known then [] else [.unknownColumn column]

/-- The fault of a filter that asks for an order against null. -/
def RequestFault.ofNullOrder (filter : Filter) : RequestFault :=
  .invalidFilter filter.column
    ("operator " ++ filter.comparison.sql ++ " cannot compare against NULL")

/-- Everything that is wrong with a filter: its column is unknown, and then it asks for an order against null. -/
def Filter.faults (known : List String) (filter : Filter) : List RequestFault :=
  RequestFault.ofColumn known filter.column ++
    if filter.ordersNull then [.ofNullOrder filter] else []

/-- Everything that is wrong with a request: with its filters in order, and then with its sort column. -/
def Request.faults (known : List String) (request : Request) : List RequestFault :=
  request.filters.flatMap (Filter.faults known) ++
    request.sortColumn?.toList.flatMap (RequestFault.ofColumn known)

namespace RequestFault

/-- A fault is told by what is said about it. -/
theorem failure_injective {fault other : RequestFault} {table : String}
    (same : fault.failure table = other.failure table) : fault = other := by
  cases fault <;> cases other <;> cases same <;> rfl

end RequestFault

namespace MemoryTable

variable (table : MemoryTable)

/-- A column is refused if it is not known. -/
theorem failure?_checkColumn (column : String) :
    failure? (table.checkColumn column) =
      ((RequestFault.ofColumn (table.columns.map (·.name)) column).head?).map
        (·.failure table.name) := by
  -- The check compares with each column, and the fault asks whether the name is among theirs.
  have known : (table.columns.any fun held => held.name == column) = true ↔
      column ∈ table.columns.map (·.name) := by
    simp only [List.any_eq_true, beq_iff_eq, List.mem_map]
  unfold checkColumn RequestFault.ofColumn
  by_cases held : column ∈ table.columns.map (·.name)
  · rw [if_pos (known.mpr held), if_pos held]
    rfl
  · rw [if_neg (mt known.mp held), if_neg held]
    rfl

/-- A filter is refused for the first thing that is wrong with it. -/
theorem failure?_checkFilter (filter : Filter) :
    failure? (table.checkFilter filter) =
      ((filter.faults (table.columns.map (·.name))).head?).map (·.failure table.name) := by
  -- An unknown column hides that the filter asks for an order against null as well.
  have column := table.failure?_checkColumn filter.column
  unfold checkFilter Filter.faults
  rw [List.head?_append, Option.map_or, ← column]
  cases table.checkColumn filter.column with
  | error failure => rfl
  | ok _ => cases filter.ordersNull <;> rfl

/-- Filters are refused for the first thing that is wrong with any of them, in their order. -/
theorem failure?_checkFilters (filters : List Filter) :
    failure? (table.checkFilters filters) =
      ((filters.flatMap (Filter.faults (table.columns.map (·.name)))).head?).map
        (·.failure table.name) := by
  -- The filters behind one that is refused are not looked at.
  induction filters with
  | nil => rfl
  | cons filter rest ih =>
    have first := table.failure?_checkFilter filter
    unfold checkFilters
    rw [List.flatMap_cons, List.head?_append, Option.map_or, ← first, ← ih]
    cases table.checkFilter filter <;> rfl

/-- A request is refused for the first thing that is wrong with it. -/
theorem failure?_checkRequest (request : Request) :
    failure? (table.checkRequest request) =
      ((request.faults (table.columns.map (·.name))).head?).map (·.failure table.name) := by
  -- The sort column is looked at only if no filter is refused.
  have filters := table.failure?_checkFilters request.filters
  unfold checkRequest Request.faults
  rw [List.head?_append, Option.map_or, ← filters]
  cases table.checkFilters request.filters with
  | error failure => rfl
  | ok _ =>
    cases request.sortColumn? with
    | none => rfl
    | some column =>
      show failure? (table.checkColumn column) = _
      rw [table.failure?_checkColumn column, Option.toList_some, List.flatMap_singleton]
      rfl

variable {table} {request : Request}

/-- A request is accepted exactly if nothing is wrong with it. -/
theorem checkRequest_ok_iff :
    table.checkRequest request = .ok () ↔ request.faults (table.columns.map (·.name)) = [] := by
  -- There is a first fault exactly if there is any, and then it is what the check says.
  have first := table.failure?_checkRequest request
  rw [← List.head?_eq_none_iff]
  cases found : (request.faults (table.columns.map (·.name))).head? with
  | none =>
    rw [found, Option.map_none] at first
    cases checked : table.checkRequest request with
    | error failure => rw [checked] at first; cases first
    | ok _ => exact iff_of_true rfl rfl
  | some fault =>
    rw [found, Option.map_some, failure?_eq_some] at first
    rw [first]
    exact iff_of_false nofun nofun

end MemoryTable

/-- Nothing is wrong with a request on known columns that asks for no order against null. -/
theorem Request.faults_eq_nil_iff {known : List String} {request : Request} :
    request.faults known = [] ↔
      (∀ filter ∈ request.filters, filter.column ∈ known) ∧
      (∀ filter ∈ request.filters, filter.ordersNull = false) ∧
      ∀ column, request.sortColumn? = some column → column ∈ known := by
  -- Both the filters and the sort column are gone through one at a time.
  have column : ∀ {name : String}, RequestFault.ofColumn known name = [] ↔ name ∈ known := by
    intro name
    simp [RequestFault.ofColumn]
  have filter : ∀ {filter : Filter}, filter.faults known = [] ↔
      filter.column ∈ known ∧ filter.ordersNull = false := by
    intro filter
    simp [Filter.faults, column]
  simp only [faults, List.append_eq_nil_iff, List.flatMap_eq_nil_iff, filter, column,
    forall_and, and_assoc, Option.mem_toList]

end RecordTables
