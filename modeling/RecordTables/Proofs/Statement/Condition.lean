import RecordTables.Proofs.Statement.SelectText

/-! Conditions that are built say exactly the clauses of their filters and carry exactly the values given. -/

namespace RecordTables

namespace Statement

/-- The values of filters that are not null, in order. -/
def givenValues (filters : List Filter) : List Value :=
  (filters.filter fun filter => !filter.value.isNull).map (·.value)

/-- A filter for null gives no value. -/
theorem givenValues_null {filter : Filter} (missing : filter.value.isNull = true)
    (rest : List Filter) : givenValues (filter :: rest) = givenValues rest := by
  simp [givenValues, missing]

/-- A filter for anything but null gives its value first. -/
theorem givenValues_given {filter : Filter} (given : filter.value.isNull = false)
    (rest : List Filter) : givenValues (filter :: rest) = filter.value :: givenValues rest := by
  simp [givenValues, given]

/-- The values of two lists of filters, one behind the other. -/
theorem givenValues_append (filters others : List Filter) :
    givenValues (filters ++ others) = givenValues filters ++ givenValues others := by
  simp [givenValues]

/--
Clauses are built of all filters that ask for no order against null, with their texts and values; each
value takes up one number.
-/
theorem clauses_spared {filters : List Filter}
    (unordered : ∀ filter ∈ filters, filter.ordersNull = false) (number : Nat) :
    clauses filters number =
      (.ok ((clauseTexts filters number).map ClauseText.sql, givenValues filters),
        number + (givenValues filters).length) := by
  -- Each filter adds one clause; a test for null leaves the next number as it is.
  induction filters generalizing number with
  | nil => rfl
  | cons filter rest ih =>
    obtain ⟨head, tail⟩ := List.forall_mem_cons.mp unordered
    cases missing : filter.value.isNull with
    | true =>
      have text : nullClause filter.column filter.comparison =
          (ClauseText.null filter.column (filter.comparison != .equal)).sql := by
        cases filter.comparison <;> rfl
      simp [clauses, clauseTexts, head, missing, ih tail, Except.map, text, givenValues_null missing]
    | false =>
      have counted : number + 1 + (givenValues rest).length =
          number + (givenValues (filter :: rest)).length := by
        rw [givenValues_given missing, List.length_cons]
        omega
      simp [clauses, clauseTexts, head, missing, ih tail, Except.map, ClauseText.sql, counted,
        givenValues_given missing]

/-- The first filter that asks for an order against null is refused, with the values before it counted. -/
theorem clauses_refused {before : List Filter} {filter : Filter}
    (unordered : ∀ earlier ∈ before, earlier.ordersNull = false)
    (ordered : filter.ordersNull = true) (behind : List Filter) (number : Nat) :
    clauses (before ++ filter :: behind) number =
      (.error filter.nullFailure, number + (givenValues before).length) := by
  -- The filters before it take up their numbers as if it were not there.
  induction before generalizing number with
  | nil => simp [clauses, ordered, givenValues]
  | cons first rest ih =>
    obtain ⟨head, tail⟩ := List.forall_mem_cons.mp unordered
    rw [List.cons_append]
    cases missing : first.value.isNull with
    | true => simp [clauses, head, missing, ih tail, Except.map, givenValues_null missing]
    | false =>
      have counted : number + 1 + (givenValues rest).length =
          number + (givenValues (first :: rest)).length := by
        rw [givenValues_given missing, List.length_cons]
        omega
      simp [clauses, head, missing, ih tail, Except.map, counted]

/-- Filters ask for no order against null, or there is a first one that does. -/
theorem unordered_or_refused (filters : List Filter) :
    (∀ filter ∈ filters, filter.ordersNull = false) ∨
      ∃ before filter behind, filters = before ++ filter :: behind ∧
        (∀ earlier ∈ before, earlier.ordersNull = false) ∧ filter.ordersNull = true := by
  -- A search for such a filter finds the first one, or says of all that they are none.
  cases found : filters.find? Filter.ordersNull with
  | none =>
    have spared := List.find?_eq_none.mp found
    exact .inl fun filter member => by simpa using spared filter member
  | some filter =>
    obtain ⟨ordered, before, behind, split, earlier⟩ := List.find?_eq_some_iff_append.mp found
    exact .inr ⟨before, filter, behind, split, by simpa using earlier, ordered⟩

/-- There are clauses exactly if there are filters. -/
theorem clauseTexts_eq_nil {filters : List Filter} {number : Nat} :
    clauseTexts filters number = [] ↔ filters = [] := by
  -- The first filter has a clause, whichever of the two kinds it is.
  cases filters with
  | nil => simp [clauseTexts]
  | cons filter rest =>
    unfold clauseTexts
    split <;> simp

/-- Filters without clauses have no values. -/
theorem givenValues_of_noClauses {filters : List Filter} {number : Nat}
    (unused : clauseTexts filters number = []) : givenValues filters = [] := by
  rw [clauseTexts_eq_nil.mp unused]
  rfl

/-- The condition that clauses say, absent without clauses, with its values. -/
def boundClauses (clauses : List ClauseText) (params : List Value) : Option Bound :=
  (conditionClauses? clauses).map fun clauses => ⟨conditionText clauses, params⟩

/-- A condition is absent exactly without clauses. -/
theorem boundClauses_eq_none {clauses : List ClauseText} {params : List Value} :
    boundClauses clauses params = none ↔ clauses = [] := by
  cases clauses <;> simp [boundClauses, conditionClauses?]

/-- A condition that is there has clauses, and says them. -/
theorem boundClauses_eq_some {clauses : List ClauseText} {params : List Value} {bound : Bound} :
    boundClauses clauses params = some bound ↔
      clauses ≠ [] ∧ bound = ⟨conditionText clauses, params⟩ := by
  cases clauses <;> simp [boundClauses, conditionClauses?, eq_comm]

/-- The text of a condition says its clauses. -/
theorem map_sql_boundClauses (clauses : List ClauseText) (params : List Value) :
    (boundClauses clauses params).map (·.sql) = (conditionClauses? clauses).map conditionText := by
  simp [boundClauses, Function.comp_def]

/-- The values of a condition are all values, if there are none without clauses. -/
theorem params_boundClauses {clauses : List ClauseText} {params : List Value}
    (unused : clauses = [] → params = []) :
    ((boundClauses clauses params).map (·.params)).getD [] = params := by
  -- Without clauses there is no condition to hold the values, and then there are none.
  cases clauses with
  | nil => exact (unused rfl).symm
  | cons clause rest => rfl

/-- Filters that ask for no order against null have a condition, with all their values counted. -/
theorem condition_spared {filters : List Filter}
    (unordered : ∀ filter ∈ filters, filter.ordersNull = false) (number : Nat) :
    condition filters number = (.ok (boundClauses (clauseTexts filters number) (givenValues filters)),
      number + (givenValues filters).length) := by
  -- A condition is built only where there are filters, and then there are clauses.
  cases filters with
  | nil => rfl
  | cons filter rest =>
    have inhabited : (clauseTexts (filter :: rest) number).isEmpty = false :=
      List.isEmpty_eq_false_iff.mpr (mt clauseTexts_eq_nil.mp (List.cons_ne_nil _ _))
    simp only [condition, List.isEmpty_cons, Bool.false_eq_true, if_false, clauses_spared unordered,
      Except.map, boundClauses, conditionClauses?, inhabited, Option.map_some, conditionText]

/-- The first filter that asks for an order against null is refused, with the values before it counted. -/
theorem condition_refused {before : List Filter} {filter : Filter}
    (unordered : ∀ earlier ∈ before, earlier.ordersNull = false)
    (ordered : filter.ordersNull = true) (behind : List Filter) (number : Nat) :
    condition (before ++ filter :: behind) number =
      (.error filter.nullFailure, number + (givenValues before).length) := by
  -- The filter that is refused keeps the list from being empty.
  have inhabited : (before ++ filter :: behind).isEmpty = false := by simp
  simp only [condition, inhabited, Bool.false_eq_true, if_false, clauses_refused unordered ordered,
    Except.map]

/-- A window part is an optional part with the number in digits. -/
theorem windowPart_eq (keyword : String) (count : Signed 64) :
    windowPart keyword count = optionalPart keyword ((windowSize? count).map numberText) := by
  -- A positive number is written with its digits alone.
  unfold windowPart windowSize?
  split
  · rename_i positive
    have digits : Decimal.intText count.value = Decimal.natText count.value.toNat := by
      have sign : ¬ count.value < 0 := by omega
      have size : count.value.natAbs = count.value.toNat := by omega
      simp [Decimal.intText, sign, size]
    simp [optionalPart, numberText, digits]
  · rfl

/-- A statement that is built carries the values given, and its text says what it is to say. -/
theorem select_ok {table : Table} {columns : List Column} {request : Request} {bound : Bound}
    (built : select table.reference columns request = .ok bound) :
    (∀ filter ∈ request.filters, filter.ordersNull = false) ∧
      bound.params = givenValues request.filters ∧
      bound.sql = (selectText table columns request).sql := by
  -- The condition is all that could be refused, and it says the clauses of the filters.
  unfold select at built
  rcases unordered_or_refused request.filters with
    unordered | ⟨before, filter, behind, split, spared, ordered⟩
  · have listed := columnList_eq columns
    have sorted : order request.sortBy request.descending =
        (request.sortColumn?.map fun column => (column, request.descending)).map orderText := by
      simp [order, Request.sortColumn?, orderText, Function.comp_def]
    rw [condition_spared unordered] at built
    simp only [Except.ok.injEq] at built
    subst built
    refine ⟨unordered, params_boundClauses givenValues_of_noClauses, ?_⟩
    simp only [selectText, SelectText.sql, map_sql_boundClauses, listed, sorted, windowPart_eq,
      Table.reference]
  · rw [split, condition_refused spared ordered] at built
    cases built

end Statement

end RecordTables
