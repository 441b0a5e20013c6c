import RecordTables.Proofs.Memory.Selection

/-!
What a request selects when it asks for no window: the rows that pass its filters, in the order of its sort
column in either direction, with rows alike as they were and null at the end where the greatest value is.
-/

namespace RecordTables

/-- A request for all rows that pass its filters, in any order. -/
structure Request.Unwindowed (request : Request) : Prop where
  unlimited : request.limit.value ≤ 0
  unskipped : request.offset.value ≤ 0

namespace MemoryTable

/--
One numbered row stands before another in the order by a column: it compares no greater, or no less when
the order is turned around; of rows alike it has the smaller number; and null is last, or first.
-/
structure StandsBefore (column : String) (descending : Bool) (row other : Row × Nat) : Prop where
  ordered : (row.1.cell column).sortCompare (other.1.cell column) ≠ if descending then .lt else .gt
  stable : (row.1.cell column).sortCompare (other.1.cell column) = .eq → row.2 < other.2
  nullsLast : descending = false → (row.1.cell column).isNull = true →
    (other.1.cell column).isNull = true
  nullsFirst : descending = true → (other.1.cell column).isNull = true →
    (row.1.cell column).isNull = true

/-- A row that sorts no greater than another is null only if the other one is. -/
theorem isNull_of_sortCompare {left right : Value} (ordered : left.sortCompare right ≠ .gt)
    (null : left.isNull = true) : right.isNull = true := by
  -- Null against a value is greater.
  cases present : right.isNull with
  | true => rfl
  | false => simp [Value.sortCompare, null, present] at ordered

/-- A numbered row comes first, less or alike with a smaller number, exactly when it stands before the other. -/
theorem sorted_iff_standsBefore (column : String) (descending : Bool) (row other : Row × Nat) :
    ((row.1.cell column).sorted descending (other.1.cell column) = .lt ∨
      ((row.1.cell column).sorted descending (other.1.cell column) = .eq ∧ row.2 < other.2)) ↔
    StandsBefore column descending row other := by
  have turned := Value.sortCompare_swap (row.1.cell column) (other.1.cell column)
  rw [Value.sorted_eq]
  constructor
  · intro before
    -- The comparison is settled up to its direction; null follows from it.
    cases descending with
    | false =>
      have ordered : (row.1.cell column).sortCompare (other.1.cell column) ≠ .gt := by
        intro greater
        simp [greater] at before
      refine ⟨by simpa using ordered, ?_, fun _ => isNull_of_sortCompare ordered, by simp⟩
      intro alike
      simpa [alike] using before
    | true =>
      have ordered : (row.1.cell column).sortCompare (other.1.cell column) ≠ .lt := by
        intro less
        simp [less] at before
      have reverse : (other.1.cell column).sortCompare (row.1.cell column) ≠ .gt := by
        intro greater
        rw [turned] at greater
        exact ordered (by simpa using congrArg Ordering.swap greater)
      refine ⟨by simpa using ordered, ?_, by simp, fun _ => isNull_of_sortCompare reverse⟩
      intro alike
      simpa [alike] using before
  · rintro ⟨ordered, stable, _, _⟩
    -- Two outcomes are left, and for rows alike the numbers decide.
    cases descending <;>
      cases relation : (row.1.cell column).sortCompare (other.1.cell column) <;>
        simp_all

/-- A request without a window selects its matching rows, if its checks are passed. -/
theorem select_unwindowed {table : MemoryTable} {request : Request} (unwindowed : request.Unwindowed)
    (accepted : table.checkRequest request = .ok ()) :
    table.select request = .ok (matching request table.rows) := by
  -- Without a limit and an offset no row is left out.
  obtain ⟨unlimited, unskipped⟩ := unwindowed
  have nothing : request.offset.value.toNat = 0 := by omega
  rw [select, accepted, window, if_neg (by omega), nothing, List.drop_zero]
  rfl

/-- A query reads the rows that are selected, in their order. -/
theorem query_of_select {α : Type} {table : MemoryTable} {request : Request} {selected : List Row}
    (selection : table.select request = .ok selected) (reader : RecordReader α) :
    table.query reader request = selected.mapM (table.readRow reader) := by
  rw [query, selection]

/--
A request without a window that passes its checks selects the rows that pass its filters. Without a sort
column, or with an empty one, they stand as in the table. With a sort column whose values can be ordered
at all they are the only arrangement in which every row stands before all later ones.
-/
theorem select_sorted {table : MemoryTable} {request : Request} (unwindowed : request.Unwindowed)
    (accepted : table.checkRequest request = .ok ()) :
    ∃ selected, table.select request = .ok selected ∧
      (∀ {α : Type} (reader : RecordReader α),
        table.query reader request = selected.mapM (table.readRow reader)) ∧
      (∀ row, row ∈ kept request table.rows ↔
        row ∈ table.rows ∧ ∀ filter ∈ request.filters, filter.keeps row = true) ∧
      (kept request table.rows).Sublist table.rows ∧
      (request.sortBy = none ∨ request.sortBy = some "" → selected = kept request table.rows) ∧
      ∀ column, request.sortBy = some column → column ≠ "" →
        Value.SortTransitive ((kept request table.rows).map fun row => row.cell column) →
        selected.Perm (kept request table.rows) ∧
        ∀ arranged : List Row, arranged = selected ↔
          ∃ numbered : List (Row × Nat), numbered.Perm (kept request table.rows).zipIdx ∧
            numbered.Pairwise (StandsBefore column request.descending) ∧
            numbered.map Prod.fst = arranged := by
  have selection := select_unwindowed unwindowed accepted
  -- Without a window the selection is what is kept of the rows, sorted or not.
  refine ⟨matching request table.rows, selection, query_of_select selection, ?_, List.filter_sublist, ?_, ?_⟩
  · intro row
    simp [kept]
  · intro unsorted
    have none : request.sortColumn? = none := by
      rcases unsorted with absent | empty
      · simp [Request.sortColumn?, absent]
      · simp [Request.sortColumn?, empty]
    simp only [matching, none, kept]
  · intro column named nonempty transitive
    have sorting : request.sortColumn? = some column := by
      simp [Request.sortColumn?, named, nonempty]
    have orders := orders_sorted request.descending transitive
    refine ⟨?_, ?_⟩
    · simp only [matching, sorting]
      exact List.mergeSort_perm _ _
    · intro arranged
      -- The order that the statement of a request asks for has one arrangement, which is the matching rows.
      have ranked : ∀ other, request.sortColumn? = some other →
          Value.SortTransitive ((kept request table.rows).map fun row => row.cell other) := by
        intro other same
        rw [sorting] at same
        cases same
        exact transitive
      have unique := ordered_matching ranked arranged
      rw [sorting] at unique
      rw [← unique]
      simp only [Option.map_some, Statement.Ordered, SortedFrom, sorted_iff_standsBefore]

/-- All rounds but one in the order of their scores from the top. -/
def rankedRounds : Request := { nextRounds with limit := .zero 64, offset := .zero 64 }

/-- The round without a score comes first, and of two rounds with the same score the earlier one. -/
theorem select_sorted_rounds :
    rankedRounds.Unwindowed ∧ rounds.checkRequest rankedRounds = .ok () ∧
      Value.SortTransitive ((kept rankedRounds rounds.rows).map fun row => row.cell "score") ∧
      rounds.select rankedRounds =
        .ok [round "b" .null, round "c" (score 5), round "a" (score 3), round "d" (score 3)] := by
  have unwindowed : rankedRounds.Unwindowed := ⟨by decide, by decide⟩
  have accepted : rounds.checkRequest rankedRounds = .ok () := rfl
  have transitive : Value.SortTransitive
      ((kept rankedRounds rounds.rows).map fun row => row.cell "score") := by
    have cells : ((kept rankedRounds rounds.rows).map fun row => row.cell "score") =
        [score 3, .null, score 5, score 3] := rfl
    rw [cells]
    unfold Value.SortTransitive
    decide
  -- The arrangement is found by hand, and that there is only one makes it the selection.
  obtain ⟨selected, selection, _, _, _, _, sorted⟩ := select_sorted unwindowed accepted
  obtain ⟨_, unique⟩ := sorted "score" rfl (by decide) transitive
  -- The rows are numbered as they stand in the table, and of any two the first stands before the second.
  have before := fun row other : Row × Nat => (sorted_iff_standsBefore "score" true row other).mp
  have arranged := (unique [round "b" .null, round "c" (score 5), round "a" (score 3),
    round "d" (score 3)]).mpr ⟨[(round "b" .null, 1), (round "c" (score 5), 2),
      (round "a" (score 3), 0), (round "d" (score 3), 3)],
      @List.perm_middle _ _ [(round "b" .null, 1), (round "c" (score 5), 2)] _, ?_, rfl⟩
  · rw [selection, ← arranged]
    exact ⟨unwindowed, accepted, transitive, rfl⟩
  · simp only [List.pairwise_cons, List.forall_mem_cons, List.not_mem_nil, false_implies, implies_true,
      and_true, List.Pairwise.nil]
    exact ⟨⟨before _ _ (Or.inl rfl), before _ _ (Or.inl rfl), before _ _ (Or.inl rfl)⟩,
      ⟨before _ _ (Or.inl rfl), before _ _ (Or.inl rfl)⟩, before _ _ (Or.inr ⟨rfl, by decide⟩)⟩

end MemoryTable

end RecordTables
