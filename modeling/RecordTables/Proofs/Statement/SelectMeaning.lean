import RecordTables.Memory.Row
import RecordTables.Proofs.Memory.StableSort
import RecordTables.Proofs.Statement.Condition

/-! What a statement that selects records means: the rows that it yields in a logic with an unknown truth. -/

namespace RecordTables

/-- The truth of a comparison in SQL, absent when it is unknown. -/
def Comparison.truth? (comparison : Comparison) (left right : Value) : Option Bool :=
  if left.isNull || right.isNull then none
  else
    match comparison with
    | .equal => left.sqlSame? right
    | .unequal => (left.sqlSame? right).map fun same => !same
    | .greater => (left.compare? right).map fun ordering => ordering == .gt
    | .less => (left.compare? right).map fun ordering => ordering == .lt

/-- The order of two values in a sorted column; null comes last, and first when it is descending. -/
def Value.sorted (descending : Bool) (left right : Value) : Ordering :=
  match left.isNull, right.isNull with
  | true, true => .eq
  | true, false => if descending then .lt else .gt
  | false, true => if descending then .gt else .lt
  | false, false =>
    let ordering := (left.compare? right).getD .eq
    if descending then ordering.swap else ordering

namespace Statement

/-- The value of a placeholder; the first value is that of number one. -/
def parameter? (params : List Value) : Nat → Option Value
  | 0 => none
  | number + 1 => params[number]?

/-- A clause with a value in the place of its placeholder. -/
inductive Condition where
  | null (column : String) (negated : Bool)
  | compare (column : String) (comparison : Comparison) (value : Value)

/-- Puts the value of its placeholder into a clause, if there is one. -/
def ClauseText.bind? (params : List Value) : ClauseText → Option Condition
  | .null column negated => some (.null column negated)
  | .compare column comparison number =>
    (parameter? params number).map fun value => .compare column comparison value

/-- The truth of a condition for a row; a test for null is never unknown. -/
def Condition.truth? (row : Row) : Condition → Option Bool
  | .null column negated => some ((row.cell column).isNull != negated)
  | .compare column comparison value => comparison.truth? (row.cell column) value

/-- The truth of two things at once: false when one of them is, and else unknown when one of them is. -/
def both? : Option Bool → Option Bool → Option Bool
  | some false, _ => some false
  | _, some false => some false
  | some true, some true => some true
  | _, _ => none

/-- The truth of all conditions at once for a row. -/
def allTrue? (row : Row) (conditions : List Condition) : Option Bool :=
  conditions.foldr (fun condition rest => both? (condition.truth? row) rest) (some true)

/-- The rows for which all conditions are true, and neither false nor unknown. -/
def satisfying (conditions : List Condition) (rows : List Row) : List Row :=
  rows.filter fun row => allTrue? row conditions == some true

/-- A list of rows in an order, rows alike as they were; without an order it is as it was. -/
def Ordered (order : Option (String × Bool)) (rows ordered : List Row) : Prop :=
  match order with
  | none => ordered = rows
  | some (column, descending) =>
    SortedFrom (fun row other : Row => (row.cell column).sorted descending (other.cell column))
      rows ordered

/-- What is left behind an offset, up to a limit; either may be missing. -/
def windowed {α : Type} (limit offset : Option Nat) (items : List α) : List α :=
  let rest := match offset with
    | some count => items.drop count
    | none => items
  match limit with
  | some count => rest.take count
  | none => rest

/-- The rows that a statement yields for values of its placeholders. -/
def SelectText.Yields (text : SelectText) (params : List Value) (rows result : List Row) : Prop :=
  ∃ conditions ordered, text.clauses.mapM (ClauseText.bind? params) = some conditions ∧
    Ordered text.order (satisfying conditions rows) ordered ∧
    result = windowed text.limit text.offset ordered

/-- The condition that a filter asks for. -/
def filterCondition (filter : Filter) : Condition :=
  if filter.value.isNull then .null filter.column (filter.comparison != .equal)
  else .compare filter.column filter.comparison filter.value

/-- The clauses of filters find the values given for them, behind those of other placeholders. -/
theorem bind_clauseTexts (filters : List Filter) (before : List Value) :
    (clauseTexts filters (before.length + 1)).mapM
      (ClauseText.bind? (before ++ givenValues filters)) = some (filters.map filterCondition) := by
  -- A filter with a value moves it over to those before, and the numbers move on with it.
  induction filters generalizing before with
  | nil => rfl
  | cons filter rest ih =>
    cases missing : filter.value.isNull with
    | true =>
      have tail := ih before
      simp [clauseTexts, missing, givenValues_null missing, ClauseText.bind?, filterCondition, tail]
    | false =>
      have tail := ih (before ++ [filter.value])
      have found : parameter? (before ++ filter.value :: givenValues rest) (before.length + 1) =
          some filter.value := by
        simp [parameter?]
      simp only [List.length_append, List.length_singleton, List.append_assoc,
        List.singleton_append] at tail
      simp [clauseTexts, missing, givenValues_given missing, ClauseText.bind?, filterCondition,
        found, tail]

/-- Two things at once are true exactly when each of them is. -/
theorem both?_eq_true (first second : Option Bool) :
    both? first second = some true ↔ first = some true ∧ second = some true := by
  rcases first with _ | _ | _ <;> rcases second with _ | _ | _ <;> decide

/-- All conditions at once are true exactly when each of them is. -/
theorem allTrue?_eq_true (row : Row) (conditions : List Condition) :
    allTrue? row conditions = some true ↔
      ∀ condition ∈ conditions, condition.truth? row = some true := by
  -- The conditions are taken together from the last one on.
  induction conditions with
  | nil => simp [allTrue?]
  | cons condition rest ih =>
    rw [List.forall_mem_cons, ← ih]
    exact both?_eq_true _ _

/-- A row passes a filter exactly when the filter's condition is true for it. -/
theorem truth?_filterCondition {filter : Filter} (unordered : filter.ordersNull = false) (row : Row) :
    (filterCondition filter).truth? row = some true ↔ filter.keeps row = true := by
  -- A filter for null asks for a test, and any other for a comparison with its value.
  obtain ⟨column, comparison, value⟩ := filter
  simp only [Filter.keeps, Filter.accepts, filterCondition]
  cases missing : value.isNull with
  | true =>
    -- Only the tests for null are left, as no order is asked for.
    cases comparison with
    | equal =>
      simp only [if_true, Condition.truth?]
      cases (row.cell column).isNull <;> decide
    | unequal =>
      simp only [if_true, Condition.truth?]
      cases (row.cell column).isNull <;> decide
    | greater => simp [Filter.ordersNull, missing, Comparison.isOrdering] at unordered
    | less => simp [Filter.ordersNull, missing, Comparison.isOrdering] at unordered
  | false =>
    simp only [Bool.false_eq_true, if_false, Condition.truth?, Comparison.truth?, missing,
      Bool.or_false]
    cases absent : (row.cell column).isNull with
    | true =>
      -- A row with null in the column makes every comparison unknown.
      have null : row.cell column = .null := by
        cases cell : row.cell column with
        | null => rfl
        | _ => simp [cell, Value.isNull] at absent
      cases comparison <;> simp [null, Value.sqlSame?, Value.isNull, Value.compare?]
    | false =>
      cases comparison with
      | equal => simp
      | unequal => simp
      | greater => simp
      | less => simp

/-- The rows that satisfy the conditions of filters are those that pass the filters. -/
theorem satisfying_filterConditions {filters : List Filter}
    (unordered : ∀ filter ∈ filters, filter.ordersNull = false) (rows : List Row) :
    satisfying (filters.map filterCondition) rows =
      rows.filter fun row => filters.all fun filter => filter.keeps row := by
  -- The two ways to keep rows agree row by row, and on a row filter by filter.
  unfold satisfying
  congr 1
  funext row
  rw [Bool.eq_iff_iff, beq_iff_eq, allTrue?_eq_true, List.all_eq_true, List.forall_mem_map]
  constructor
  · intro holds filter member
    exact (truth?_filterCondition (unordered filter member) row).mp (holds filter member)
  · intro passes filter member
    exact (truth?_filterCondition (unordered filter member) row).mpr (passes filter member)

end Statement

end RecordTables
