import RecordTables.Memory.Row
import RecordTables.Proofs.Value.Equality

/-!
The order of values: exchanging two of them turns it around, and it is transitive within a kind but for a
not-a-number between others.
-/

namespace RecordTables

/-- A number no greater than a second one, which is no greater than a third, is no greater than the third. -/
theorem Floating.compare?_trans {format : FloatFormat} {first second third : Floating format}
    (number : second ≠ .nan) (before : first.compare? second ≠ some .gt)
    (after : second.compare? third ≠ some .gt) : first.compare? third ≠ some .gt := by
  -- With a not-a-number at either end nothing is compared; numbers have the order of their places.
  cases first with
  | nan => simp [compare?]
  | number negative magnitude bounded =>
    cases third with
    | nan => simp [compare?]
    | number negative'' magnitude'' bounded'' =>
      cases second with
      | nan => exact absurd rfl number
      | number negative' magnitude' bounded' =>
        simp only [compare?, ne_eq, Option.some.injEq, Ordering.ne_gt_iff_isLE] at before after ⊢
        exact Std.TransCmp.isLE_trans before after

/-- Instants are ordered by their seconds, and nanoseconds break the tie. -/
instance : Std.TransCmp Timestamp.compare :=
  inferInstanceAs (Std.TransCmp (compareLex (compareOn Timestamp.seconds)
    (compareOn Timestamp.nanos)))

namespace Value

/-- Lists of texts have the order of lists. -/
theorem compareTexts_eq (lefts rights : List String) :
    compareTexts lefts rights = Ord.compare lefts rights := by
  -- The first difference settles both.
  induction lefts generalizing rights with
  | nil => cases rights <;> rfl
  | cons left lefts ih =>
    cases rights with
    | nil => rfl
    | cons right rights => rw [compareTexts, ih, List.compare_cons_cons]

/-- Exchanging two values turns their order around, and leaves it absent if it is. -/
theorem compare?_swap (left right : Value) :
    right.compare? left = (left.compare? right).map Ordering.swap := by
  -- Values compare within their kind, and integers with reals; nothing else compares at all.
  cases left with
  | document value =>
    cases right with
    | document value' =>
      simp only [compare?]
      rw [Json.same_comm value' value]
      cases value.same value' <;> rfl
    | _ => rfl
  | text value =>
    cases right with
    | text value' => exact congrArg some Std.OrientedCmp.eq_swap
    | _ => rfl
  | integer value =>
    cases right with
    | integer value' => exact congrArg some Std.OrientedCmp.eq_swap
    | real value' => exact Floating.compare?_swap _ _
    | _ => rfl
  | real value =>
    cases right with
    | integer value' => exact Floating.compare?_swap _ _
    | real value' => exact Floating.compare?_swap _ _
    | _ => rfl
  | boolean value =>
    cases right with
    | boolean value' => exact congrArg some Std.OrientedCmp.eq_swap
    | _ => rfl
  | timestamp value =>
    cases right with
    | timestamp value' => exact congrArg some Std.OrientedCmp.eq_swap
    | _ => rfl
  -- The order of lists is the lexicographic one, which turns round as that of the texts does.
  | textList value =>
    cases right with
    | textList value' =>
      simp only [compare?, compareTexts_eq, Option.map_some, Option.some.injEq]
      exact Std.OrientedCmp.eq_swap
    | _ => rfl
  | null => cases right <;> rfl

/-- Values of one kind compare transitively, as long as the middle one is no not-a-number. -/
theorem compare?_trans {first second third : Value} (alike : first.kind = second.kind)
    (alike' : second.kind = third.kind) (number : second ≠ .real .nan)
    (before : first.compare? second ≠ some .gt) (after : second.compare? third ≠ some .gt) :
    first.compare? third ≠ some .gt := by
  -- Each other kind has one order, and null is not compared at all.
  cases second with
  | real value =>
    cases first <;> cases third <;> simp only [kind, reduceCtorEq] at alike alike'
    exact Floating.compare?_trans (fun nan => number (congrArg Value.real nan)) before after
  | document value =>
    cases first <;> cases third <;> simp only [kind, reduceCtorEq] at alike alike'
    -- Documents that differ are not compared, so none is ever greater.
    simp only [compare?]
    split <;> simp
  | null => cases first <;> cases third <;> simp [kind, compare?] at alike alike' ⊢
  | _ =>
    cases first <;> cases third <;> simp only [kind, reduceCtorEq] at alike alike'
    simp only [compare?, compareTexts_eq, ne_eq, Option.some.injEq,
      Ordering.ne_gt_iff_isLE] at before after ⊢
    exact Std.TransCmp.isLE_trans before after

/-- Exchanging two values turns their places in a sorted column around. -/
theorem sortCompare_swap (left right : Value) :
    right.sortCompare left = (left.sortCompare right).swap := by
  -- Null is settled first, and what does not compare counts as equal both ways.
  unfold sortCompare
  rw [compare?_swap left right]
  cases left.isNull with
  | true => cases right.isNull <;> rfl
  | false =>
    cases right.isNull with
    | true => rfl
    | false => cases left.compare? right <;> rfl

/-- A value sorts no greater than another if that is null, or if neither is and it compares no greater. -/
theorem sortCompare_ne_gt {left right : Value} :
    left.sortCompare right ≠ .gt ↔
      right = .null ∨ left ≠ .null ∧ left.compare? right ≠ some .gt := by
  -- Null is settled first; what is not compared counts as equal.
  simp only [ne_eq, ← isNull_iff, sortCompare]
  cases left.isNull with
  | true => cases right.isNull <;> simp
  | false =>
    cases right.isNull with
    | true => simp
    | false => cases left.compare? right <;> simp

/-- A value sorts alike with itself, also one that does not compare with itself. -/
theorem sortCompare_self (value : Value) : value.sortCompare value = .eq := by
  -- Only being alike is the same when it is turned around.
  have turned := sortCompare_swap value value
  cases relation : value.sortCompare value with
  | eq => rfl
  | lt => rw [relation] at turned; cases turned
  | gt => rw [relation] at turned; cases turned

end Value

end RecordTables
