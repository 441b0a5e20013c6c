import RecordTables.Value.Basic

/-! Equality of values is symmetric and transitive; only a not-a-number differs from itself. -/

namespace RecordTables

namespace Floating

variable {format : FloatFormat}

/-- Exchanging two numbers turns their order around. -/
theorem compare?_swap (left right : Floating format) :
    right.compare? left = (left.compare? right).map Ordering.swap := by
  -- A not-a-number compares with nothing, in either place.
  cases left with
  | nan => cases right <;> rfl
  | number negative magnitude bounded =>
    cases right with
    | nan => rfl
    | number negative' magnitude' bounded' =>
      -- Two numbers compare by their places, whose order is that of the integers.
      simp only [compare?, Option.map_some, Option.some.injEq]
      exact Std.OrientedCmp.eq_swap

/-- Equality of numbers is symmetric. -/
theorem same_comm (left right : Floating format) : left.same right = right.same left := by
  -- Only two equal numbers are the same, and equal is its own reverse.
  unfold same
  rw [compare?_swap left right]
  cases left.compare? right with
  | none => rfl
  | some ordering => cases ordering <;> rfl

/-- Equality of numbers is transitive. -/
theorem same_trans {left middle right : Floating format} (first : left.same middle = true)
    (second : middle.same right = true) : left.same right = true := by
  -- A not-a-number equals nothing, so three numbers are left, which stand at one place.
  cases left with
  | nan => simp [same, compare?] at first
  | number negative magnitude bounded =>
    cases middle with
    | nan => simp [same, compare?] at first
    | number negative' magnitude' bounded' =>
      cases right with
      | nan => simp [same, compare?] at second
      | number negative'' magnitude'' bounded'' =>
        simp only [same, compare?, beq_iff_eq, Option.some.injEq,
          Std.LawfulEqCmp.compare_eq_iff_eq] at first second ⊢
        exact first.trans second

end Floating

namespace JsonNumber

/-- Equality of document numbers is symmetric. -/
theorem same_comm (left right : JsonNumber) : left.same right = right.same left := by
  -- A whole number and a float are never the same, so that there are two cases to compare.
  cases left with
  | whole value lower upper =>
    cases right with
    | whole value' lower' upper' => simp only [same, Bool.beq_comm]
    | real value' finite' => rfl
  | real value finite =>
    cases right with
    | whole value' lower' upper' => rfl
    | real value' finite' => exact Floating.same_comm value value'

/-- Equality of document numbers is transitive. -/
theorem same_trans {left middle right : JsonNumber} (first : left.same middle = true)
    (second : middle.same right = true) : left.same right = true := by
  -- Whole numbers and floats never equal each other, so all three are of one sort.
  cases left with
  | whole value lower upper =>
    cases middle with
    | real value' finite' => simp [same] at first
    | whole value' lower' upper' =>
      cases right with
      | real value'' finite'' => simp [same] at second
      | whole value'' lower'' upper'' =>
        simp only [same, beq_iff_eq] at first second ⊢
        -- Here equality is that of the numbers.
        exact first.trans second
  | real value finite =>
    cases middle with
    | whole value' lower' upper' => simp [same] at first
    | real value' finite' =>
      cases right with
      | whole value'' lower'' upper'' => simp [same] at second
      | real value'' finite'' =>
        simp only [same] at first second ⊢
        exact Floating.same_trans first second

end JsonNumber

namespace Json

mutual

/-- Equality of documents is symmetric. -/
theorem same_comm : ∀ left right : Json, left.same right = right.same left
  | .null, right => by cases right <;> rfl
  | .boolean value, right => by
    cases right with
    | boolean value' => simp only [same, Bool.beq_comm]
    | _ => rfl
  | .number value, right => by
    cases right with
    | number value' => exact JsonNumber.same_comm value value'
    | _ => rfl
  | .string value, right => by
    cases right with
    | string value' => simp only [same, Bool.beq_comm]
    | _ => rfl
  | .array items, right => by
    cases right with
    | array items' => exact sameItems_comm items items'
    | _ => rfl
  | .object members, right => by
    cases right with
    | object members' => exact sameMembers_comm members members'
    | _ => rfl

/-- Equality of lists of documents is symmetric. -/
theorem sameItems_comm : ∀ lefts rights : List Json, sameItems lefts rights = sameItems rights lefts
  | [], rights => by cases rights <;> rfl
  | left :: lefts, rights => by
    cases rights with
    | nil => rfl
    | cons right rights =>
      simp only [sameItems]
      rw [same_comm left right, sameItems_comm lefts rights]

/-- Equality of lists of members is symmetric. -/
theorem sameMembers_comm : ∀ lefts rights : List (String × Json),
    sameMembers lefts rights = sameMembers rights lefts
  | [], rights => by cases rights <;> rfl
  | (leftName, left) :: lefts, rights => by
    cases rights with
    | nil => rfl
    | cons right rights =>
      obtain ⟨rightName, right⟩ := right
      simp only [sameMembers]
      rw [Bool.beq_comm, same_comm left right, sameMembers_comm lefts rights]

end

mutual

/-- Equality of documents is transitive. -/
theorem same_trans : ∀ {left middle right : Json}, left.same middle = true →
    middle.same right = true → left.same right = true
  | .null, middle, right, first, second => by
    cases middle <;> cases right <;> simp_all [same]
  | .boolean value, middle, right, first, second => by
    cases middle <;> cases right <;> simp_all [same]
  | .number value, middle, right, first, second => by
    cases middle with
    | number value' =>
      cases right with
      | number value'' =>
        simp only [same] at first second ⊢
        exact JsonNumber.same_trans first second
      | _ => simp [same] at second
    | _ => simp [same] at first
  | .string value, middle, right, first, second => by
    cases middle <;> cases right <;> simp_all [same]
  | .array items, middle, right, first, second => by
    cases middle with
    | array items' =>
      cases right with
      | array items'' =>
        simp only [same] at first second ⊢
        exact sameItems_trans first second
      | _ => simp [same] at second
    | _ => simp [same] at first
  | .object members, middle, right, first, second => by
    cases middle with
    | object members' =>
      cases right with
      | object members'' =>
        simp only [same] at first second ⊢
        exact sameMembers_trans first second
      | _ => simp [same] at second
    | _ => simp [same] at first

/-- Equality of lists of documents is transitive. -/
theorem sameItems_trans : ∀ {lefts middles rights : List Json}, sameItems lefts middles = true →
    sameItems middles rights = true → sameItems lefts rights = true
  | [], middles, rights, first, second => by
    cases middles <;> simp_all [sameItems]
  | left :: lefts, middles, rights, first, second => by
    cases middles with
    | nil => simp [sameItems] at first
    | cons middle middles =>
      cases rights with
      | nil => simp [sameItems] at second
      | cons right rights =>
        simp only [sameItems, Bool.and_eq_true] at first second ⊢
        exact ⟨same_trans first.1 second.1, sameItems_trans first.2 second.2⟩

/-- Equality of lists of members is transitive. -/
theorem sameMembers_trans : ∀ {lefts middles rights : List (String × Json)},
    sameMembers lefts middles = true → sameMembers middles rights = true →
      sameMembers lefts rights = true
  | [], middles, rights, first, second => by
    cases middles <;> simp_all [sameMembers]
  | (leftName, left) :: lefts, middles, rights, first, second => by
    cases middles with
    | nil => simp [sameMembers] at first
    | cons middle middles =>
      cases rights with
      | nil => simp [sameMembers] at second
      | cons right rights =>
        simp only [sameMembers, Bool.and_eq_true, beq_iff_eq] at first second ⊢
        exact ⟨⟨first.1.1.trans second.1.1, same_trans first.1.2 second.1.2⟩,
          sameMembers_trans first.2 second.2⟩

end

end Json

namespace Value

/-- Equality of values is symmetric. -/
theorem same_comm (left right : Value) : left.same right = right.same left := by
  -- Documents and floats have an equality of their own, and all other kinds that of their contents.
  cases left with
  | document value =>
    cases right with
    | document value' => exact Json.same_comm value value'
    | _ => rfl
  | real value =>
    cases right with
    | real value' => exact Floating.same_comm value value'
    | _ => rfl
  | _ => cases right <;> simp only [same, Bool.beq_comm]

/-- Equal values are of one kind. -/
theorem kind_eq_of_same {left right : Value} (equal : left.same right = true) :
    left.kind = right.kind := by
  cases left <;> cases right <;> first | rfl | simp [same] at equal

/-- Equality of values is transitive. -/
theorem same_trans {left middle right : Value} (first : left.same middle = true)
    (second : middle.same right = true) : left.same right = true := by
  -- All three are of one kind, and on each kind equality is transitive.
  have firstKind := kind_eq_of_same first
  have secondKind := kind_eq_of_same second
  cases left with
  | document value =>
    cases middle <;> cases right <;> simp only [kind, reduceCtorEq] at firstKind secondKind
    exact Json.same_trans first second
  | real value =>
    cases middle <;> cases right <;> simp only [kind, reduceCtorEq] at firstKind secondKind
    exact Floating.same_trans first second
  | _ =>
    cases middle <;> cases right <;> simp only [kind, reduceCtorEq] at firstKind secondKind
    simp_all [same]

/-- A value equals a text only by being it. -/
theorem same_text {value : Value} {text : String} :
    value.same (.text text) = true ↔ value = .text text := by
  cases value <;> simp [same]

/-- Null is the only value that is null. -/
theorem isNull_iff {value : Value} : value.isNull = true ↔ value = .null := by
  cases value <;> simp [isNull]

/-- Every value but null is given. -/
theorem isNull_eq_false_iff {value : Value} : value.isNull = false ↔ value ≠ .null := by
  rw [← Bool.not_eq_true, isNull_iff]

/-- Null is the only value of its kind. -/
theorem isNull_eq (value : Value) : value.isNull = (value.kind == .null) := by
  cases value <;> rfl

/-- Values of one kind are null together. -/
theorem isNull_congr {left right : Value} (alike : left.kind = right.kind) :
    left.isNull = right.isNull := by
  rw [isNull_eq, isNull_eq, alike]

end Value

end RecordTables
