import Mathlib.Data.List.Forall2
import RecordTables.Proofs.Statement.Condition
import RecordTables.Proofs.Statement.SelectReader
import RecordTables.Proofs.Value.Equality

/-!
The condition of filters one behind the other is the condition of the first ones and that of the others,
which goes on with the number that the first ones leave. That number counts the values before it, also
when a filter is refused, so that the placeholders of a condition are numbered without a gap.
-/

namespace RecordTables

/-- A filter asks how a value is ordered against null. -/
def Filter.AsksNullOrder (filter : Filter) : Prop :=
  filter.value = .null ∧ (filter.comparison = .greater ∨ filter.comparison = .less)

/-- Filters are tested for asking how a value is ordered against null. -/
theorem Filter.ordersNull_iff {filter : Filter} : filter.ordersNull = true ↔ filter.AsksNullOrder := by
  -- Of the four comparisons two ask for an order.
  rw [ordersNull, AsksNullOrder, Bool.and_eq_true, Value.isNull_iff]
  refine and_congr_right fun _ => ?_
  cases filter.comparison <;> simp [Comparison.isOrdering]

/-- Texts one behind the other are joined like two texts. -/
theorem Text.joinWith_append (separator : String) {texts others : List String}
    (inhabited : texts ≠ []) (more : others ≠ []) :
    joinWith separator (texts ++ others) =
      joinWith separator texts ++ separator ++ joinWith separator others := by
  -- Only the last of the first texts has the others behind it.
  induction texts with
  | nil => exact absurd rfl inhabited
  | cons text rest ih =>
    cases rest with
    | nil =>
      obtain ⟨other, last, rfl⟩ := List.exists_cons_of_ne_nil more
      rfl
    | cons next rest =>
      have tail := ih (List.cons_ne_nil _ _)
      simp only [List.cons_append] at tail
      simp only [List.cons_append, joinWith, tail, String.append_assoc]

namespace Statement

/-- Two conditions that must both hold, with the values of both; an absent one asks for nothing. -/
def Bound.both : Option Bound → Option Bound → Option Bound
  | none, second => second
  | some first, none => some first
  | some first, some second =>
    some ⟨first.sql ++ " AND " ++ second.sql, first.params ++ second.params⟩

/-- A clause asks what a filter does: null is tested for, and any other value has a placeholder. -/
def ClauseText.Asks : ClauseText → Filter → Prop
  | .null column negated, filter =>
    filter.value = .null ∧ column = filter.column ∧
      filter.comparison = if negated then .unequal else .equal
  | .compare column comparison _, filter =>
    filter.value ≠ .null ∧ column = filter.column ∧ comparison = filter.comparison

/-- The number of the placeholder in a clause. -/
def ClauseText.number? : ClauseText → Option Nat
  | .null _ _ => none
  | .compare _ _ number => some number

/-- The clauses of filters one behind the other; the values of the first ones are counted on. -/
theorem clauseTexts_append (filters others : List Filter) (number : Nat) :
    clauseTexts (filters ++ others) number =
      clauseTexts filters number ++ clauseTexts others (number + (givenValues filters).length) := by
  -- Each value moves the number on by one, and a test for null leaves it as it is.
  induction filters generalizing number with
  | nil => rfl
  | cons filter rest ih =>
    cases missing : filter.value.isNull with
    | true => simp [clauseTexts, missing, ih, givenValues_null missing]
    | false =>
      have counted : number + 1 + (givenValues rest).length =
          number + ((givenValues rest).length + 1) := by omega
      simp [clauseTexts, missing, ih, givenValues_given missing, counted]

/-- Each clause asks what its filter does, if no filter asks for an order against null. -/
theorem asks_clauseTexts {filters : List Filter}
    (unordered : ∀ filter ∈ filters, filter.ordersNull = false) (number : Nat) :
    List.Forall₂ ClauseText.Asks (clauseTexts filters number) filters := by
  -- A clause repeats what its filter says; only the test for null has to be looked at.
  induction filters generalizing number with
  | nil => exact .nil
  | cons filter rest ih =>
    obtain ⟨head, tail⟩ := List.forall_mem_cons.mp unordered
    cases missing : filter.value.isNull with
    | true =>
      -- Of the comparisons with null only two are left, which the test tells apart.
      have tested : filter.comparison =
          if (filter.comparison != .equal) = true then .unequal else .equal := by
        rw [Filter.ordersNull, missing, Bool.true_and] at head
        revert head
        cases filter.comparison <;> decide
      rw [clauseTexts, if_pos missing]
      exact .cons ⟨Value.isNull_iff.mp missing, rfl, tested⟩ (ih tail number)
    | false =>
      have given : filter.value ≠ .null := fun null => by simp [null, Value.isNull] at missing
      rw [clauseTexts, if_neg (by simp [missing])]
      exact .cons ⟨given, rfl, rfl⟩ (ih tail (number + 1))

/-- The placeholders of clauses are numbered in order, one for each value. -/
theorem numbers_clauseTexts (filters : List Filter) (number : Nat) :
    (clauseTexts filters number).filterMap ClauseText.number? =
      List.range' number (givenValues filters).length := by
  -- The clauses behind a comparison begin with the next number.
  induction filters generalizing number with
  | nil => rfl
  | cons filter rest ih =>
    cases missing : filter.value.isNull with
    | true =>
      rw [clauseTexts, if_pos missing, List.filterMap_cons_none rfl, ih, givenValues_null missing]
    | false =>
      have numbered : (ClauseText.compare filter.column filter.comparison number).number? =
          some number := rfl
      rw [clauseTexts, if_neg (by simp [missing]), List.filterMap_cons_some numbered, ih,
        givenValues_given missing, List.length_cons, List.range'_succ]

/-- The clauses of two conditions say both of them. -/
theorem boundClauses_append {clauses others : List ClauseText} {params otherParams : List Value}
    (unused : clauses = [] → params = []) (otherUnused : others = [] → otherParams = []) :
    boundClauses (clauses ++ others) (params ++ otherParams) =
      Bound.both (boundClauses clauses params) (boundClauses others otherParams) := by
  -- A word stands between them only where both have clauses.
  cases clauses with
  | nil => simp [unused rfl, Bound.both, boundClauses, conditionClauses?]
  | cons clause rest =>
    cases others with
    | nil => simp [otherUnused rfl, Bound.both, boundClauses, conditionClauses?]
    | cons other last =>
      have joined : conditionText (clause :: rest ++ other :: last) =
          conditionText (clause :: rest) ++ " AND " ++ conditionText (other :: last) := by
        unfold conditionText
        rw [List.map_append]
        exact Text.joinWith_append conjunction (by simp) (by simp)
      rw [List.cons_append] at joined
      simp [Bound.both, boundClauses, conditionClauses?, joined]

/-- The condition of filters one behind the other goes on with the number that the first ones leave. -/
theorem condition_append (filters others : List Filter) (number : Nat) :
    condition (filters ++ others) number =
      match condition filters number with
      | (.error failure, next) => (.error failure, next)
      | (.ok bound, next) =>
        ((condition others next).1.map (Bound.both bound), (condition others next).2) := by
  -- Of all filters the first refused one is that of the first filters, or else that of the others.
  rcases unordered_or_refused filters with unordered | ⟨before, filter, behind, rfl, spared, ordered⟩
  · rw [condition_spared unordered]
    rcases unordered_or_refused others with
      otherUnordered | ⟨before, filter, behind, rfl, spared, ordered⟩
    · have both := List.forall_mem_append.mpr ⟨unordered, otherUnordered⟩
      have counted := Nat.add_assoc number (givenValues filters).length (givenValues others).length
      rw [condition_spared both, clauseTexts_append, givenValues_append, List.length_append,
        boundClauses_append givenValues_of_noClauses givenValues_of_noClauses]
      simp only [condition_spared otherUnordered, Except.map, counted]
    · -- The filters before the refused one are all of the first and some of the others.
      have both := List.forall_mem_append.mpr ⟨unordered, spared⟩
      have counted := Nat.add_assoc number (givenValues filters).length (givenValues before).length
      rw [← List.append_assoc, condition_refused both ordered, givenValues_append, List.length_append]
      simp only [condition_refused spared ordered, Except.map, counted]
  · rw [List.append_assoc, List.cons_append, condition_refused spared ordered,
      condition_refused spared ordered]

/-- A condition is refused exactly for the first filter that asks for an order against null. -/
theorem condition_eq_error {filters : List Filter} {number next : Nat} {failure : Failure} :
    condition filters number = (.error failure, next) ↔
      ∃ before filter behind, filters = before ++ filter :: behind ∧
        (∀ earlier ∈ before, ¬ earlier.AsksNullOrder) ∧ filter.AsksNullOrder ∧
        failure = filter.nullFailure ∧ next = number + (givenValues before).length := by
  constructor
  -- Either no filter is at fault, and a condition was built, or the first one at fault is
  -- the one that is named.
  · intro refused
    rcases unordered_or_refused filters with
      unordered | ⟨before, filter, behind, rfl, spared, ordered⟩
    · rw [condition_spared unordered] at refused
      cases refused
    · rw [condition_refused spared ordered] at refused
      cases refused
      refine ⟨before, filter, behind, rfl, fun earlier member asks => ?_,
        Filter.ordersNull_iff.mp ordered, rfl, rfl⟩
      rw [← Filter.ordersNull_iff, spared earlier member] at asks
      cases asks
  · rintro ⟨before, filter, behind, rfl, spared, asks, rfl, rfl⟩
    refine condition_refused (fun earlier member => ?_) (Filter.ordersNull_iff.mpr asks) behind number
    exact Bool.eq_false_iff.mpr (mt Filter.ordersNull_iff.mp (spared earlier member))

/-- A condition that is built is that of filters which ask for no order against null. -/
theorem condition_ok {filters : List Filter} {number next : Nat} {bound : Option Bound}
    (built : condition filters number = (.ok bound, next)) :
    (∀ filter ∈ filters, filter.ordersNull = false) ∧
      bound = boundClauses (clauseTexts filters number) (givenValues filters) ∧
      next = number + (givenValues filters).length := by
  -- A filter at fault would have refused the condition, so that there is none.
  rcases unordered_or_refused filters with
    unordered | ⟨before, filter, behind, rfl, spared, ordered⟩
  · rw [condition_spared unordered] at built
    cases built
    exact ⟨unordered, rfl, rfl⟩
  · rw [condition_refused spared ordered] at built
    cases built

/-- The clauses of a condition are read back from its text. -/
theorem readClauses?_conditionText {clauses : List ClauseText} (inhabited : clauses ≠ []) :
    readSeparated? readClause? " AND " (conditionText clauses).toList = some (clauses, []) := by
  obtain ⟨clause, others, rfl⟩ := List.exists_cons_of_ne_nil inhabited
  -- The text ends with the last clause, so no word follows it.
  have ended : Delimits [] := fun _ impossible => by simp at impossible
  have read : readSeparated? readClause? " AND "
      ((Text.joinWith " AND " ((clause :: others).map ClauseText.sql)).toList ++ []) =
        some (clause :: others, []) := by
    refine readSeparated?_joinWith (by decide) ?_ ended (after?_nil (by decide)) ?_
    · exact fun rest => delimits_append rest rfl (by decide)
    · exact fun clause _ rest delimits => readClause?_sql clause delimits
  rwa [List.append_nil] at read

/--
The condition of filters is that of the first ones joined with that of the others, which goes on with
the number that the first ones leave. It is refused exactly for the first filter that asks how a value
is ordered against null, and the number counts the values given before it. Otherwise its text is read
back as one clause for each filter, with placeholders numbered in order, one for each value given.
-/
theorem conditions_compose (filters others : List Filter) (number : Nat) :
    (condition (filters ++ others) number =
      match condition filters number with
      | (.error failure, next) => (.error failure, next)
      | (.ok bound, next) =>
        ((condition others next).1.map (Bound.both bound), (condition others next).2)) ∧
    (∀ failure next, condition filters number = (.error failure, next) ↔
      ∃ before filter behind, filters = before ++ filter :: behind ∧
        (∀ earlier ∈ before, ¬ earlier.AsksNullOrder) ∧ filter.AsksNullOrder ∧
        failure = .invalidFilter filter.column
          ("operator " ++ filter.comparison.sql ++ " cannot compare against NULL") ∧
        next = number + (givenValues before).length) ∧
    ∀ bound next, condition filters number = (.ok bound, next) →
      next = number + (givenValues filters).length ∧ (bound = none ↔ filters = []) ∧
      ∀ given, bound = some given → given.params = givenValues filters ∧
        ∃ clauses, given.sql = conditionText clauses ∧
          readSeparated? readClause? " AND " given.sql.toList = some (clauses, []) ∧
          List.Forall₂ ClauseText.Asks clauses filters ∧
          clauses.filterMap ClauseText.number? =
            List.range' number (givenValues filters).length := by
  refine ⟨condition_append filters others number, fun failure next => condition_eq_error, ?_⟩
  intro bound next built
  obtain ⟨unordered, rfl, rfl⟩ := condition_ok built
  refine ⟨rfl, boundClauses_eq_none.trans clauseTexts_eq_nil, fun given present => ?_⟩
  obtain ⟨inhabited, rfl⟩ := boundClauses_eq_some.mp present
  exact ⟨rfl, clauseTexts filters number, rfl, readClauses?_conditionText inhabited,
    asks_clauseTexts unordered number, numbers_clauseTexts filters number⟩

-- Of the filters before a refused one only those with a value are counted.
example : condition [⟨"kind", .unequal, .null⟩, ⟨"open", .equal, .boolean true⟩,
      ⟨"rank", .less, .null⟩, ⟨"size", .greater, .boolean false⟩] 4 =
    (.error (.invalidFilter "rank" "operator < cannot compare against NULL"), 5) := rfl

end Statement

end RecordTables
