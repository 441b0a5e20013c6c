import RecordTables.Proofs.Memory.RequestFaults
import RecordTables.Proofs.Statement.SelectMeaning
import RecordTables.Proofs.Statement.SelectReader
import RecordTables.Proofs.Value.Order

/-! A table in memory selects the rows that the statement for the same request yields. -/

namespace RecordTables

/-- Values whose places in a sorted column agree with each other. -/
def Value.SortTransitive (values : List Value) : Prop :=
  ∀ first ∈ values, ∀ second ∈ values, ∀ third ∈ values, first.sortCompare second ≠ .gt →
    second.sortCompare third ≠ .gt → first.sortCompare third ≠ .gt

/-- The order of a sorted column is that of its values, turned around when it is descending. -/
theorem Value.sorted_eq (descending : Bool) (left right : Value) :
    left.sorted descending right =
      if descending then (left.sortCompare right).swap else left.sortCompare right := by
  -- Null is at one end in either order, and the other end when the order is turned around.
  unfold Value.sorted Value.sortCompare
  cases left.isNull with
  | true => cases right.isNull <;> cases descending <;> rfl
  | false => cases right.isNull <;> cases descending <;> rfl

namespace MemoryTable

open Statement

/-- The rows that pass all filters of a request, in the order of the table. -/
def kept (request : Request) (rows : List Row) : List Row :=
  rows.filter fun row => request.filters.all fun filter => filter.keeps row

/-- Rows are ordered by a column if its values are, and in the other direction too. -/
theorem orders_sorted {rows : List Row} {column : String} (descending : Bool)
    (transitive : Value.SortTransitive (rows.map fun row => row.cell column)) :
    Orders (fun row other : Row => (row.cell column).sorted descending (other.cell column)) rows := by
  -- Turning the comparison around exchanges the values and keeps both laws.
  have turned : ∀ row other : Row, (other.cell column).sorted descending (row.cell column) =
      ((row.cell column).sorted descending (other.cell column)).swap := by
    intro row other
    simp only [Value.sorted_eq, Value.sortCompare_swap (row.cell column) (other.cell column)]
    cases descending <;> rfl
  have cells : ∀ row ∈ rows, row.cell column ∈ rows.map fun row => row.cell column :=
    fun row member => List.mem_map_of_mem member
  refine ⟨fun row _ other _ => turned row other, ?_⟩
  intro first firstMember second secondMember third thirdMember before after
  cases descending with
  | false =>
    simp only [Value.sorted_eq, Bool.false_eq_true, if_false] at before after ⊢
    exact transitive _ (cells first firstMember) _ (cells second secondMember) _
      (cells third thirdMember) before after
  | true =>
    -- Turned around, the third value comes first.
    simp only [Value.sorted_eq, if_true, ← Value.sortCompare_swap] at before after ⊢
    exact transitive _ (cells third thirdMember) _ (cells second secondMember) _
      (cells first firstMember) after before

/-- The rows that pass the filters stand in the order of a request, and in no other is one list. -/
theorem ordered_matching {request : Request} {rows : List Row}
    (transitive : ∀ column, request.sortColumn? = some column →
      Value.SortTransitive ((kept request rows).map fun row => row.cell column))
    (ordered : List Row) :
    Ordered (request.sortColumn?.map fun column => (column, request.descending))
      (kept request rows) ordered ↔ ordered = matching request rows := by
  -- Merging sorts the rows, and there is only one way to sort them.
  unfold matching
  cases sorting : request.sortColumn? with
  | none => exact Iff.rfl
  | some column =>
    have orders := orders_sorted request.descending (transitive column sorting)
    have precedes : (fun row other : Row =>
        (row.cell column).sorted request.descending (other.cell column) != .gt) =
          mayPrecede column request.descending := by
      funext row other
      rw [Value.sorted_eq]
      rfl
    have sorted := sortedFrom_mergeSort orders
    rw [precedes] at sorted
    constructor
    · intro given
      exact SortedFrom.unique orders given sorted
    · intro same
      exact same ▸ sorted

/-- The window of a request is what its limit and its offset leave. -/
theorem window_eq {α : Type} (request : Request) (items : List α) :
    window request items =
      windowed (windowSize? request.limit) (windowSize? request.offset) items := by
  -- A limit and an offset count only when they are positive.
  unfold window windowed windowSize?
  by_cases skips : 0 < request.offset.value
  · by_cases stops : 0 < request.limit.value
    · simp only [if_pos skips, if_pos stops]
    · simp only [if_pos skips, if_neg stops]
  · -- An offset that is not positive skips nothing.
    have nothing : request.offset.value.toNat = 0 := by omega
    by_cases stops : 0 < request.limit.value
    · simp only [if_neg skips, if_pos stops, nothing, List.drop_zero]
    · simp only [if_neg skips, if_neg stops, nothing, List.drop_zero]

/-- A request for columns of the table selects rows if none of its filters asks for an order against null. -/
theorem select_ok {table : MemoryTable} {request : Request}
    (known : ∀ filter ∈ request.filters, filter.column ∈ table.columns.map (·.name))
    (unordered : ∀ filter ∈ request.filters, filter.ordersNull = false)
    (sortKnown : ∀ column, request.sortColumn? = some column →
      column ∈ table.columns.map (·.name)) :
    table.select request = .ok (window request (matching request table.rows)) := by
  -- Nothing is wrong with the request, so only the choice of rows is left.
  have sound := Request.faults_eq_nil_iff.mpr ⟨known, unordered, sortKnown⟩
  rw [select, checkRequest_ok_iff.mpr sound]
  rfl

/--
For every request on columns of a table, the rows that the table in memory selects are the only ones
that the statement yields when it is read back from its text and its placeholders stand for the
values it carries, if the values of the sort column can be ordered at all.
-/
theorem select_yields {table : Table} {stored : MemoryTable} {request : Request} {bound : Bound}
    (built : Statement.select table.reference stored.columns request = .ok bound)
    (known : ∀ filter ∈ request.filters, filter.column ∈ stored.columns.map (·.name))
    (sortKnown : ∀ column, request.sortColumn? = some column →
      column ∈ stored.columns.map (·.name))
    (transitive : ∀ column, request.sortColumn? = some column →
      Value.SortTransitive ((kept request stored.rows).map fun row => row.cell column)) :
    ∃ text selected, readSelect? bound.sql = some text ∧ text.schema = table.schema ∧
      text.table = table.name ∧ text.columns = stored.columns.map (·.name) ∧
      stored.select request = .ok selected ∧
      ∀ rows, text.Yields bound.params stored.rows rows ↔ rows = selected := by
  -- The text is read back as what it was to say, so its meaning is that of the filters, order and window.
  obtain ⟨unordered, params, sql⟩ := Statement.select_ok built
  refine ⟨selectText table stored.columns request, window request (matching request stored.rows),
    ?_, rfl, rfl, rfl, select_ok known unordered sortKnown, ?_⟩
  · rw [sql]
    exact readSelect?_sql _
  · intro rows
    have conditions : (selectText table stored.columns request).clauses.mapM
        (ClauseText.bind? bound.params) = some (request.filters.map filterCondition) := by
      rw [params]
      exact bind_clauseTexts request.filters []
    have satisfied := satisfying_filterConditions unordered stored.rows
    have order := ordered_matching transitive
    constructor
    · rintro ⟨given, ordered, bindings, sorted, rfl⟩
      -- The conditions are those of the filters, so the rows in order are those that match.
      rw [conditions, Option.some.injEq] at bindings
      subst given
      rw [satisfied] at sorted
      rw [(order ordered).mp sorted]
      exact (window_eq request _).symm
    · rintro rfl
      refine ⟨_, matching request stored.rows, conditions, ?_, window_eq request _⟩
      rw [satisfied]
      exact (order _).mpr rfl

/-- The row of a round. -/
def round (key : String) (score : Value) : Row :=
  (Dictionary.empty.insert "id" (.text key)).insert "score" score

/-- A score of few points. -/
def score (points : Fin 10) : Value := .integer ⟨points.val, by omega, by omega⟩

/-- Rounds, of which one has no score and two have the same. -/
def rounds : MemoryTable := ⟨"rounds", [⟨"key", "id", .text, ⟨true, false, false⟩⟩,
  ⟨"points", "score", .signed 64, .none⟩], [round "a" (score 3), round "b" .null,
  round "c" (score 5), round "d" (score 3), round "e" (score 9)]⟩

/-- Two rounds behind the first, in the order of their scores from the top and without one of them. -/
def nextRounds : Request := ⟨[⟨"id", .unequal, .null⟩, ⟨"id", .unequal, .text "e"⟩], some "score",
  true, ⟨2, by decide, by decide⟩, ⟨1, by decide, by decide⟩⟩

/-- The rounds but one stand with null first, and two of the same score as they were. -/
theorem matching_nextRounds : matching nextRounds rounds.rows =
    [round "b" .null, round "c" (score 5), round "a" (score 3), round "d" (score 3)] := by
  -- The five comparisons that merging makes are settled one by one.
  let precedes := mayPrecede "score" true
  have a_b : precedes (round "a" (score 3)) (round "b" .null) = false := rfl
  have c_d : precedes (round "c" (score 5)) (round "d" (score 3)) = true := rfl
  have b_c : precedes (round "b" .null) (round "c" (score 5)) = true := rfl
  have a_c : precedes (round "a" (score 3)) (round "c" (score 5)) = false := rfl
  have a_d : precedes (round "a" (score 3)) (round "d" (score 3)) = true := rfl
  show List.mergeSort [round "a" (score 3), round "b" .null, round "c" (score 5),
    round "d" (score 3)] precedes = _
  simp [List.mergeSort, List.MergeSort.Internal.splitInTwo, a_b, c_d, b_c, a_c, a_d]

/-- The statement yields the best score and then the first of two alike, as null comes before them. -/
theorem select_yields_rounds :
    ∃ bound text, Statement.select ((Table.named "rounds").withSchema "games").reference
        rounds.columns nextRounds = .ok bound ∧
      readSelect? bound.sql = some text ∧
      ∀ rows, text.Yields bound.params rounds.rows rows ↔
        rows = [round "c" (score 5), round "a" (score 3)] := by
  -- What the statement yields is known from the selection in memory.
  obtain ⟨bound, built⟩ : ∃ bound, Statement.select
      ((Table.named "rounds").withSchema "games").reference rounds.columns nextRounds = .ok bound :=
    ⟨_, rfl⟩
  have sorting : nextRounds.sortColumn? = some "score" := rfl
  have transitive : Value.SortTransitive
      ((kept nextRounds rounds.rows).map fun row => row.cell "score") := by
    have cells : ((kept nextRounds rounds.rows).map fun row => row.cell "score") =
        [score 3, .null, score 5, score 3] := rfl
    rw [cells]
    unfold Value.SortTransitive
    decide
  obtain ⟨text, selected, read, _, _, _, found, yields⟩ := select_yields built (by decide)
    (by rw [sorting]; rintro column ⟨⟩; decide) (by rw [sorting]; rintro column ⟨⟩; exact transitive)
  -- What is selected is known, so that is what the statement yields.
  have selection : rounds.select nextRounds = .ok [round "c" (score 5), round "a" (score 3)] := by
    rw [select, matching_nextRounds]
    rfl
  cases selection.symm.trans found
  exact ⟨bound, text, built, read, yields⟩

end MemoryTable

end RecordTables
