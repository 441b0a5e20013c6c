import Mathlib.Data.List.Forall2
import RecordTables.Proofs.Statement.Condition
import RecordTables.Proofs.Statement.SelectReader
import RecordTables.Proofs.Value.Equality

/-!
No name and no value in a request changes the shape of its statement: the text tells the request
apart from all others, up to the values that go with it, and does not depend on these values.
-/

namespace RecordTables

/-- Filters that compare the same column in the same way, with values that are related. -/
structure Filter.Alike (related : Value → Value → Prop) (filter other : Filter) : Prop where
  column : filter.column = other.column
  comparison : filter.comparison = other.comparison
  value : related filter.value other.value

/-- Values that are null together. -/
def Value.NullTogether (value other : Value) : Prop := value.isNull = other.isNull

namespace Statement

section Clauses

variable {filters others : List Filter}

/-- Of a test for null the text tells the comparison, as only two of them are tests. -/
theorem comparison_eq_of_negated {filter other : Filter} (missing : filter.value.isNull = true)
    (otherMissing : other.value.isNull = true) (unordered : filter.ordersNull = false)
    (otherUnordered : other.ordersNull = false)
    (same : (filter.comparison != .equal) = (other.comparison != .equal)) :
    filter.comparison = other.comparison := by
  -- An order against null is refused, so each comparison is for equality or against it.
  simp only [Filter.ordersNull, missing, otherMissing, Bool.true_and] at unordered otherUnordered
  revert unordered otherUnordered same
  cases filter.comparison <;> cases other.comparison <;> decide

/-- Filters with the same clauses are alike if the values that go with them are, and nulls are too. -/
theorem alike_of_clauseTexts {related : Value → Value → Prop} (nulls : related .null .null)
    (unordered : ∀ filter ∈ filters, filter.ordersNull = false)
    (othersUnordered : ∀ filter ∈ others, filter.ordersNull = false) {number : Nat}
    (same : clauseTexts filters number = clauseTexts others number)
    (values : List.Forall₂ related (givenValues filters) (givenValues others)) :
    List.Forall₂ (Filter.Alike related) filters others := by
  -- The clauses are compared one by one; each shows whether a value goes with it.
  induction filters generalizing others number with
  | nil =>
    cases others with
    | nil => exact .nil
    | cons other rest =>
      unfold clauseTexts at same
      split at same <;> simp at same
  | cons filter rest ih =>
    cases others with
    | nil =>
      unfold clauseTexts at same
      split at same <;> simp at same
    | cons other rest' =>
      obtain ⟨head, tail⟩ := List.forall_mem_cons.mp unordered
      obtain ⟨otherHead, otherTail⟩ := List.forall_mem_cons.mp othersUnordered
      cases missing : filter.value.isNull with
      | true =>
        cases otherMissing : other.value.isNull with
        | true =>
          simp only [clauseTexts, missing, otherMissing, if_true, List.cons.injEq,
            ClauseText.null.injEq] at same
          obtain ⟨⟨column, negated⟩, same⟩ := same
          rw [givenValues_null missing, givenValues_null otherMissing] at values
          refine .cons ⟨column, ?_, ?_⟩ (ih tail otherTail same values)
          · exact comparison_eq_of_negated missing otherMissing head otherHead negated
          · rw [Value.isNull_iff.mp missing, Value.isNull_iff.mp otherMissing]
            exact nulls
        -- A test for null and a comparison have different texts.
        | false => simp [clauseTexts, missing, otherMissing] at same
      | false =>
        cases otherMissing : other.value.isNull with
        | true => simp [clauseTexts, missing, otherMissing] at same
        | false =>
          simp only [clauseTexts, missing, otherMissing, Bool.false_eq_true, if_false,
            List.cons.injEq, ClauseText.compare.injEq, and_true] at same
          obtain ⟨⟨column, comparison⟩, same⟩ := same
          rw [givenValues_given missing, givenValues_given otherMissing] at values
          -- Both clauses take the next value, which is related to the other one.
          obtain ⟨value, values⟩ := List.forall₂_cons.mp values
          exact .cons ⟨column, comparison, value⟩ (ih tail otherTail same values)

/-- Filters have the same clauses if they are alike but for values that are null together. -/
theorem clauseTexts_congr (alike : List.Forall₂ (Filter.Alike Value.NullTogether) filters others)
    (number : Nat) : clauseTexts filters number = clauseTexts others number := by
  -- A value decides by being null or not which clause there is, and in nothing else.
  induction alike generalizing number with
  | nil => rfl
  | cons head _ ih =>
    obtain ⟨column, comparison, null⟩ := head
    unfold Value.NullTogether at null
    simp only [clauseTexts, column, comparison, null, ih]

/-- Filters that are alike but for values that are null together are refused together. -/
theorem unordered_congr (alike : List.Forall₂ (Filter.Alike Value.NullTogether) filters others)
    (unordered : ∀ filter ∈ filters, filter.ordersNull = false) :
    ∀ filter ∈ others, filter.ordersNull = false := by
  -- Whether an order is asked for depends on the comparison and on whether the value is null,
  -- both of which are alike.
  induction alike with
  | nil => exact unordered
  | cons head _ ih =>
    obtain ⟨_, comparison, null⟩ := head
    unfold Value.NullTogether at null
    obtain ⟨first, later⟩ := List.forall_mem_cons.mp unordered
    refine List.forall_mem_cons.mpr ⟨?_, ih later⟩
    rwa [Filter.ordersNull, comparison, null] at first

end Clauses

/-- A statement is built of every request whose filters ask for no order against null. -/
theorem select_of_unordered {request : Request}
    (unordered : ∀ filter ∈ request.filters, filter.ordersNull = false) (reference : String)
    (columns : List Column) : ∃ bound, select reference columns request = .ok bound := by
  -- The condition is all that could be refused.
  unfold select
  rw [condition_spared unordered]
  exact ⟨_, rfl⟩

/-- Two statements with one text say the same. -/
theorem SelectText.sql_injective {text other : SelectText} (same : text.sql = other.sql) :
    text = other := by
  -- The reader finds in the text what either of them says.
  have read : some text = some other := by
    rw [← readSelect?_sql text, ← readSelect?_sql other, same]
  exact Option.some.inj read

/-- Filters that are alike with the same values are the same. -/
theorem eq_of_alike {filters others : List Filter}
    (alike : List.Forall₂ (Filter.Alike (· = ·)) filters others) : filters = others := by
  -- With equal values there is no part left in which two such filters could differ.
  induction alike with
  | nil => rfl
  | @cons filter other _ _ head _ ih =>
    obtain ⟨column, comparison, value⟩ := filter
    obtain ⟨rfl, rfl, rfl⟩ := head
    rw [ih]

/-- Filters of statements with one text are alike if the values that go with the texts are. -/
theorem alike_of_select {table otherTable : Table} {columns otherColumns : List Column}
    {request other : Request} {bound otherBound : Bound}
    (built : select table.reference columns request = .ok bound)
    (otherBuilt : select otherTable.reference otherColumns other = .ok otherBound)
    (same : bound.sql = otherBound.sql) {related : Value → Value → Prop}
    (nulls : related .null .null) (values : List.Forall₂ related bound.params otherBound.params) :
    List.Forall₂ (Filter.Alike related) request.filters other.filters := by
  -- The text has one reading, so that the clauses are the same, and the values are compared in their order.
  obtain ⟨unordered, params, sql⟩ := select_ok built
  obtain ⟨otherUnordered, otherParams, otherSql⟩ := select_ok otherBuilt
  have said := SelectText.sql_injective (sql.symm.trans (same.trans otherSql))
  rw [params, otherParams] at values
  exact alike_of_clauseTexts nulls unordered otherUnordered (congrArg SelectText.clauses said) values

/--
Whatever names a request brings, its statement is read back from its text alone: the table, the
columns, the clauses with their comparisons and placeholders, the order and the window. So a request
with the same text and the same values has the same filters, order and window, and a request that
differs only in values that are null together has the same text.
-/
theorem select_text_tells_request {table : Table} {columns : List Column} {request : Request}
    {bound : Bound} (built : select table.reference columns request = .ok bound) :
    readSelect? bound.sql = some ⟨columns.map (·.name), table.schema, table.name,
      clauseTexts request.filters 1,
      request.sortColumn?.map fun column => (column, request.descending),
      windowSize? request.limit, windowSize? request.offset⟩ ∧
    (∀ (otherTable : Table) (otherColumns : List Column) (other : Request) (otherBound : Bound),
      select otherTable.reference otherColumns other = .ok otherBound →
      bound.sql = otherBound.sql →
        table.schema = otherTable.schema ∧ table.name = otherTable.name ∧
        columns.map (·.name) = otherColumns.map (·.name) ∧
        (request.sortColumn?.map fun column => (column, request.descending)) =
          (other.sortColumn?.map fun column => (column, other.descending)) ∧
        windowSize? request.limit = windowSize? other.limit ∧
        windowSize? request.offset = windowSize? other.offset ∧
        (bound.params = otherBound.params → request.filters = other.filters) ∧
        (List.Forall₂ (fun value other => Value.same value other = true)
            bound.params otherBound.params →
          List.Forall₂ (Filter.Alike fun value other => Value.same value other = true)
            request.filters other.filters)) ∧
    ∀ filters : List Filter,
      List.Forall₂ (Filter.Alike Value.NullTogether) request.filters filters →
        ∃ otherBound, select table.reference columns { request with filters := filters } =
          .ok otherBound ∧ otherBound.sql = bound.sql := by
  obtain ⟨unordered, params, sql⟩ := select_ok built
  refine ⟨?_, ?_, ?_⟩
  · rw [sql]
    exact readSelect?_sql _
  · intro otherTable otherColumns other otherBound otherBuilt same
    obtain ⟨_, _, otherSql⟩ := select_ok otherBuilt
    -- Both texts are the same, so that their readings are, and with them all that a reading holds.
    have said := SelectText.sql_injective (sql.symm.trans (same.trans otherSql))
    simp only [selectText, SelectText.mk.injEq] at said
    obtain ⟨names, schema, name, _, sorted, limit, offset⟩ := said
    refine ⟨schema, name, names, sorted, limit, offset, ?_, ?_⟩
    · intro values
      refine eq_of_alike (alike_of_select built otherBuilt same rfl ?_)
      rw [List.forall₂_eq_eq_eq]
      exact values
    · exact alike_of_select built otherBuilt same rfl
  · intro filters alike
    -- What the new request says is what the old one says, clause by clause.
    have otherUnordered := unordered_congr alike unordered
    obtain ⟨otherBound, otherBuilt⟩ : ∃ otherBound, select table.reference columns
        { request with filters := filters } = .ok otherBound :=
      select_of_unordered otherUnordered _ _
    obtain ⟨_, _, otherSql⟩ := select_ok otherBuilt
    refine ⟨otherBound, otherBuilt, ?_⟩
    rw [sql, otherSql]
    simp only [selectText, clauseTexts_congr alike 1]
    rfl

/-- A request whose names are made up of quotes, placeholders and keywords. -/
def hostileRequest : Request := ⟨[⟨"a\" = $1 AND \"b", .unequal, .null⟩,
  ⟨"\"; LIMIT 1 --", .greater, .text "\" OR true"⟩, ⟨"", .less, .boolean true⟩],
  some "c\" DESC OFFSET 9, \"d", false, ⟨5, by decide, by decide⟩, ⟨-1, by decide, by decide⟩⟩

/-- Two columns, of which one has a quote in its name. -/
def quotedColumns : List Column := [⟨"key", "id", .text, ⟨true, false, false⟩⟩,
  ⟨"note", "no\"te", .text, .none⟩]

/-- The request is read back from its text with every name in its place. -/
theorem select_text_tells_request_hostile :
    ∃ bound, select ((Table.named "t\" ()").withSchema "s\".\"").reference quotedColumns
        hostileRequest = .ok bound ∧
      readSelect? bound.sql = some ⟨["id", "no\"te"], some "s\".\"", "t\" ()",
        [.null "a\" = $1 AND \"b" true, .compare "\"; LIMIT 1 --" .greater 1, .compare "" .less 2],
        some ("c\" DESC OFFSET 9, \"d", false), some 5, none⟩ := by
  -- The statement is built, and the theorem reads it back.
  obtain ⟨bound, built⟩ : ∃ bound, select ((Table.named "t\" ()").withSchema "s\".\"").reference
      quotedColumns hostileRequest = .ok bound := ⟨_, rfl⟩
  exact ⟨bound, built, (select_text_tells_request built).1⟩

end Statement

end RecordTables
