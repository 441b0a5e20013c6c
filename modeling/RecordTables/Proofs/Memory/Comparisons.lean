import RecordTables.Proofs.Value.Order

/-!
The comparisons of a filter agree with each other. Values are equal by one rule within a kind and by
another between kinds, and both come to the same: the order finds them equal. So the order decides which
filters keep a row, and only for being unequal there is more to it, as values without an order may differ.
-/

namespace RecordTables

/-- Instants that the order finds equal are the same instant. -/
instance : Std.LawfulEqCmp Timestamp.compare where
  eq_of_compare {left right} equal := by
    -- The order looks at the seconds and at the nanoseconds, which is all that an instant has.
    obtain ⟨seconds, nanos⟩ := Ordering.then_eq_eq.mp equal
    cases left
    cases right
    cases Std.LawfulEqCmp.eq_of_compare seconds
    cases Std.LawfulEqCmp.eq_of_compare nanos
    rfl

namespace Value

/-- Values of one kind are equal exactly if the order finds them equal, null apart, which has no order. -/
theorem same_iff_compare? {left right : Value} (alike : left.kind = right.kind)
    (given : left ≠ .null) : left.same right = true ↔ left.compare? right = some .eq := by
  cases left with
  | null => exact absurd rfl given
  | real value =>
    -- Equality of numbers is defined by their order, which a not-a-number has none of.
    cases right <;> simp only [kind, reduceCtorEq] at alike
    exact beq_iff_eq
  | document value =>
    cases right <;> simp only [kind, reduceCtorEq] at alike
    -- Documents have no other order than being equal.
    simp only [same, compare?]
    split
    · rename_i equal
      exact iff_of_true equal rfl
    · rename_i different
      refine iff_of_false different ?_
      intro impossible
      cases impossible
  | _ =>
    cases right <;> simp only [kind, reduceCtorEq] at alike
    -- The remaining kinds have a total order of their own, in which only a value itself is equal to it.
    simp only [same, compare?, compareTexts_eq, beq_iff_eq, Option.some.injEq,
      Std.LawfulEqCmp.compare_eq_iff_eq]

/-- A value that has an order with another one is not null, and neither is the other. -/
theorem given_of_compare? {left right : Value} {ordering : Ordering}
    (ordered : left.compare? right = some ordering) : left ≠ .null ∧ right ≠ .null := by
  -- Null has no order on either side.
  constructor
  · rintro rfl
    cases ordered
  · rintro rfl
    cases left <;> cases ordered

/-- Two values that are not null are equal for SQL by the rule for their kinds. -/
theorem sqlSame?_of_given {left right : Value} (leftGiven : left ≠ .null) (rightGiven : right ≠ .null) :
    left.sqlSame? right =
      if left.kind = right.kind then some (left.same right)
      else (left.compare? right).map fun ordering => ordering == .eq := by
  -- With both values given the test for null is passed over.
  have present : (left.isNull || right.isNull) = false := by
    rw [Bool.or_eq_false_iff]
    exact ⟨isNull_eq_false_iff.mpr leftGiven, isNull_eq_false_iff.mpr rightGiven⟩
  simp only [sqlSame?, present, Bool.false_eq_true, if_false]

/-- For SQL null is neither equal nor unequal to anything. -/
theorem sqlSame?_null {left right : Value} (missing : left = .null ∨ right = .null) :
    left.sqlSame? right = none := by
  -- Null on either side settles it.
  have absent : (left.isNull || right.isNull) = true := by
    rw [Bool.or_eq_true]
    exact missing.imp isNull_iff.mpr isNull_iff.mpr
  simp only [sqlSame?, absent, if_true]

/-- Values that have an order are equal for SQL exactly if the order finds them equal. -/
theorem sqlSame?_of_compare? {left right : Value} {ordering : Ordering}
    (ordered : left.compare? right = some ordering) :
    left.sqlSame? right = some (ordering == .eq) := by
  obtain ⟨leftGiven, rightGiven⟩ := given_of_compare? ordered
  rw [sqlSame?_of_given leftGiven rightGiven]
  split
  · -- Within a kind the equality that is looked at is the one of the order.
    rename_i alike
    have equal := same_iff_compare? alike leftGiven
    rw [ordered, Option.some.injEq] at equal
    exact congrArg some (Bool.eq_iff_iff.mpr (equal.trans beq_iff_eq.symm))
  · -- Between kinds the order itself is looked at.
    rw [ordered]
    rfl

/-- Values are equal for SQL exactly if the order finds them equal. -/
theorem sqlSame?_eq_true {left right : Value} :
    left.sqlSame? right = some true ↔ left.compare? right = some .eq := by
  constructor
  · intro equal
    -- SQL has found out, so neither is null.
    have leftGiven : left ≠ .null := fun missing => by
      rw [sqlSame?_null (.inl missing)] at equal
      cases equal
    have rightGiven : right ≠ .null := fun missing => by
      rw [sqlSame?_null (.inr missing)] at equal
      cases equal
    rw [sqlSame?_of_given leftGiven rightGiven] at equal
    split at equal
    · rename_i alike
      exact (same_iff_compare? alike leftGiven).mp (Option.some.inj equal)
    · obtain ⟨ordering, ordered, found⟩ := Option.map_eq_some_iff.mp equal
      rw [ordered, beq_iff_eq.mp found]
  · exact fun ordered => sqlSame?_of_compare? ordered

end Value

namespace Comparison

/-- How a value has to be ordered against another one for a comparison; being unequal asks for no one way. -/
def ordering? : Comparison → Option Ordering
  | .equal => some .eq
  | .unequal => none
  | .greater => some .gt
  | .less => some .lt

/-- Only being unequal asks for no one way. -/
theorem ordering?_eq_none {comparison : Comparison} :
    comparison.ordering? = none ↔ comparison = .unequal := by
  cases comparison <;> simp [ordering?]

/-- No two comparisons ask for the same way. -/
theorem ordering?_injective {first second : Comparison} {ordering : Ordering}
    (asked : first.ordering? = some ordering) (alike : second.ordering? = some ordering) :
    first = second := by
  -- The three ways are different, so two comparisons with one way are the same.
  cases first <;> cases asked <;> cases second <;> cases alike <;> rfl

end Comparison

namespace Filter

variable {value actual : Value}

/-- A filter for a value keeps what is ordered against the value as the comparison asks. -/
theorem accepts_ordering (column : String) (given : value ≠ .null) {comparison : Comparison}
    {ordering : Ordering} (asked : comparison.ordering? = some ordering) :
    (Filter.mk column comparison value).accepts actual = true ↔
      actual.compare? value = some ordering := by
  have present : value.isNull = false := Value.isNull_eq_false_iff.mpr given
  -- Being equal is looked at through SQL, which finds equal what the order does.
  cases comparison <;> cases asked <;>
    simp only [accepts, present, Bool.false_eq_true, if_false, beq_iff_eq, Value.sqlSame?_eq_true]

/-- A filter for what is unequal to a value keeps what SQL finds unequal. -/
theorem accepts_unequal (column : String) (given : value ≠ .null) :
    (Filter.mk column .unequal value).accepts actual = true ↔
      actual.sqlSame? value = some false := by
  have present : value.isNull = false := Value.isNull_eq_false_iff.mpr given
  simp only [accepts, present, Bool.false_eq_true, if_false, beq_iff_eq]

/--
The comparisons cohere. Exchanging two values turns their order around, and SQL finds values equal exactly
if the order does. So a row is kept by at most one of the filters for what is equal to a value, greater,
or less; by no filter for what is equal together with the one for what is unequal; by the filter for what
is unequal whenever it is kept as greater or as less; and by none of the four if it holds null.
-/
theorem comparisons_cohere :
    (∀ left right : Value, right.compare? left = (left.compare? right).map Ordering.swap) ∧
    (∀ left right : Value, left.sqlSame? right = some true ↔ left.compare? right = some .eq) ∧
    ∀ (row : Row) (column : String) (value : Value), value ≠ .null →
      let Kept := fun comparison => (Filter.mk column comparison value).keeps row = true
      (∀ first second, first ≠ .unequal → second ≠ .unequal → Kept first → Kept second →
        first = second) ∧
      ¬ (Kept .equal ∧ Kept .unequal) ∧
      (Kept .greater ∨ Kept .less → Kept .unequal) ∧
      (row.cell column = .null → ∀ comparison, ¬ Kept comparison) := by
  refine ⟨Value.compare?_swap, fun left right => Value.sqlSame?_eq_true, ?_⟩
  intro row column value given Kept
  -- All comparisons but one look at the order of what the row holds against the value.
  have ordered : ∀ comparison ordering, comparison.ordering? = some ordering →
      (Kept comparison ↔ (row.cell column).compare? value = some ordering) :=
    fun comparison ordering asked => accepts_ordering column given asked
  have differs : Kept .unequal ↔ (row.cell column).sqlSame? value = some false :=
    accepts_unequal column given
  refine ⟨?_, ?_, ?_, ?_⟩
  · -- Two ways in which the values are ordered are one way, and each comparison asks for its own.
    intro first second firstOther secondOther firstKept secondKept
    obtain ⟨ordering, asked⟩ := Option.ne_none_iff_exists'.mp
      (mt Comparison.ordering?_eq_none.mp firstOther)
    obtain ⟨ordering', asked'⟩ := Option.ne_none_iff_exists'.mp
      (mt Comparison.ordering?_eq_none.mp secondOther)
    have one := ((ordered _ _ asked).mp firstKept).symm.trans ((ordered _ _ asked').mp secondKept)
    exact Comparison.ordering?_injective asked (Option.some.inj one ▸ asked')
  · -- What the order finds equal SQL finds equal, and so not unequal.
    rintro ⟨equal, unequal⟩
    have same := Value.sqlSame?_eq_true.mpr ((ordered .equal .eq rfl).mp equal)
    rw [differs.mp unequal] at same
    cases same
  · -- What is ordered in another way than as equal SQL finds unequal.
    rw [ordered .greater .gt rfl, ordered .less .lt rfl, differs]
    rintro (greater | less)
    · exact Value.sqlSame?_of_compare? greater
    · exact Value.sqlSame?_of_compare? less
  · -- Null has no order against the value, and SQL does not find it unequal either.
    intro missing comparison kept
    cases asked : comparison.ordering? with
    | some ordering =>
      exact (Value.given_of_compare? ((ordered _ _ asked).mp kept)).1 missing
    | none =>
      rw [Comparison.ordering?_eq_none.mp asked] at kept
      have unknown := differs.mp kept
      rw [Value.sqlSame?_null (.inl missing)] at unknown
      cases unknown

/-- The least whole number that no float equals, two to the power of 53 and one. -/
def oddCount : Value := .integer ⟨9007199254740993, by decide, by decide⟩

/-- The float two to the power of 53. -/
def evenCount : Value := .real (.number false 4845873199050653696 (by decide))

/-- The whole number meets the float as the nearest float, and so it is equal, not greater and not unequal. -/
theorem comparisons_cohere_counts :
    evenCount ≠ .null ∧ oddCount.kind ≠ evenCount.kind ∧
    (Filter.mk "count" .equal evenCount).keeps (Dictionary.empty.insert "count" oddCount) = true ∧
    (Filter.mk "count" .greater evenCount).keeps (Dictionary.empty.insert "count" oddCount) ≠ true ∧
    (Filter.mk "count" .unequal evenCount).keeps (Dictionary.empty.insert "count" oddCount) ≠ true ∧
    evenCount.sqlSame? oddCount = some true := by
  obtain ⟨turned, equal, cohere⟩ := comparisons_cohere
  have given : evenCount ≠ .null := nofun
  obtain ⟨once, apart, _⟩ := cohere (Dictionary.empty.insert "count" oddCount) "count" evenCount given
  -- The whole number is halfway between two floats, of which this one is the even one.
  have ordered : oddCount.compare? evenCount = some .eq := by decide +kernel
  have kept : (Filter.mk "count" .equal evenCount).keeps
      (Dictionary.empty.insert "count" oddCount) = true :=
    (accepts_ordering "count" given rfl).mpr ordered
  refine ⟨given, nofun, kept, fun greater => ?_, fun unequal => apart ⟨kept, unequal⟩, ?_⟩
  · cases once .equal .greater nofun nofun kept greater
  · rw [equal, turned oddCount, ordered]
    rfl

end Filter

end RecordTables
