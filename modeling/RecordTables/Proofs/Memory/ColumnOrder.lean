import RecordTables.Column.StorageType
import RecordTables.Memory.Table
import RecordTables.Proofs.Value.Order

/-!
The values of a column are in one order, whatever the type of the column, except that a not-a-number sorts
alike with every number. So it can stand between two numbers that are the wrong way round, and a column
with a not-a-number and two different numbers has no order to sort by.
-/

namespace RecordTables

/-- The kind of the values in columns of a type. -/
def StorageType.kind : StorageType → Value.Kind
  | .text => .text
  | .integer => .integer
  | .real => .real
  | .boolean => .boolean
  | .timestamp => .timestamp
  | .document => .document
  | .textList => .textList

/-- A column of a type can hold null and the values of its kind. -/
def StorageType.Holds (type : StorageType) (value : Value) : Prop :=
  value = .null ∨ value.kind = type.kind

namespace StorageType

variable {type : StorageType}

/-- A value of a column that is not null is of the kind of the column. -/
theorem Holds.kind_eq {value : Value} (held : type.Holds value) (given : value ≠ .null) :
    value.kind = type.kind :=
  held.resolve_left given

/-- In a column with a not-a-number there are only numbers beside null. -/
theorem Holds.eq_real {value : Value} (held : type.Holds value) (given : value ≠ .null)
    (number : type.Holds (.real .nan)) : ∃ content, value = .real content := by
  -- The type of the column is settled by the not-a-number in it.
  have kind : value.kind = .real := (held.kind_eq given).trans (number.kind_eq nofun).symm
  cases value <;> simp only [Value.kind, reduceCtorEq] at kind
  exact ⟨_, rfl⟩

/--
Three values of a column sort each no greater than the next, but the first greater than the last, exactly
if the middle one is a not-a-number between two numbers that are the wrong way round.
-/
theorem chain_broken_iff {first second third : Value} (firstHeld : type.Holds first)
    (secondHeld : type.Holds second) (thirdHeld : type.Holds third) :
    (first.sortCompare second ≠ .gt ∧ second.sortCompare third ≠ .gt ∧
      first.sortCompare third = .gt) ↔
    second = .real .nan ∧ ∃ high low : Double,
      first = .real high ∧ third = .real low ∧ high.compare? low = some .gt := by
  constructor
  · rintro ⟨before, after, greater⟩
    -- The last value is not null, as null is the greatest, and so none of the three is.
    have last : ¬ first.sortCompare third ≠ .gt := fun ordered => ordered greater
    rw [Value.sortCompare_ne_gt] at before after last
    obtain ⟨thirdGiven, larger⟩ := not_or.mp last
    obtain ⟨secondGiven, after⟩ := after.resolve_left thirdGiven
    obtain ⟨firstGiven, before⟩ := before.resolve_left secondGiven
    have alike := (firstHeld.kind_eq firstGiven).trans (secondHeld.kind_eq secondGiven).symm
    have alike' := (secondHeld.kind_eq secondGiven).trans (thirdHeld.kind_eq thirdGiven).symm
    -- Values of one kind are transitive around any middle value that is compared with itself.
    by_cases number : second = .real .nan
    · subst number
      obtain ⟨high, rfl⟩ := firstHeld.eq_real firstGiven secondHeld
      obtain ⟨low, rfl⟩ := thirdHeld.eq_real thirdGiven secondHeld
      exact ⟨rfl, high, low, rfl, rfl, Decidable.not_not.mp fun other => larger ⟨firstGiven, other⟩⟩
    · exact absurd ⟨firstGiven, Value.compare?_trans alike alike' number before after⟩ larger
  · rintro ⟨rfl, high, low, rfl, rfl, greater⟩
    -- A not-a-number is not compared, in whatever place it stands.
    have before : (Value.real high).compare? (.real .nan) = none := by cases high <;> rfl
    refine ⟨?_, nofun, ?_⟩
    · simp [Value.sortCompare, Value.isNull, before]
    · exact congrArg (Option.getD · Ordering.eq) greater

/--
A column sorts its values consistently: each one is alike with itself, exchanging two turns their order
around, and the order is transitive, except that a not-a-number is alike with all numbers and so joins
two that are the wrong way round.
-/
theorem sorts_consistently {first second third : Value} (firstHeld : type.Holds first)
    (secondHeld : type.Holds second) (thirdHeld : type.Holds third) :
    first.sortCompare first = .eq ∧
    second.sortCompare first = (first.sortCompare second).swap ∧
    ((first.sortCompare second ≠ .gt ∧ second.sortCompare third ≠ .gt ∧
        first.sortCompare third = .gt) ↔
      second = .real .nan ∧ ∃ high low : Double,
        first = .real high ∧ third = .real low ∧ high.compare? low = some .gt) :=
  ⟨Value.sortCompare_self first, Value.sortCompare_swap first second,
    chain_broken_iff firstHeld secondHeld thirdHeld⟩

end StorageType

namespace MemoryTable

/-- The level one. -/
def one : Double := .number false 4607182418800017408 (by decide)

/-- The row of a reading. -/
def reading (key : String) (level : Double) : Row :=
  (Dictionary.empty.insert "id" (.text key)).insert "level" (.real level)

/-- Readings, of which two in the middle have no level that is a number. -/
def readings : MemoryTable := ⟨"readings", [⟨"id", "id", .text, ⟨true, false, false⟩⟩,
  ⟨"level", "level", .floating 64, .none⟩],
  [reading "a" one, reading "b" .nan, reading "c" .nan, reading "d" (.zero .double false)]⟩

/-- All readings in the order of their levels. -/
def risingLevels : Request := { Request.everything with sortBy := some "level" }

/-- A level of one, minus zero and null are in order whatever way they are compared. -/
theorem sorts_consistently_levels :
    StorageType.real.Holds (.real (.zero .double true)) ∧ StorageType.real.Holds (.real one) ∧
    StorageType.real.Holds .null ∧
    (Value.real one).sortCompare (.real (.zero .double true)) =
      ((Value.real (.zero .double true)).sortCompare (.real one)).swap ∧
    (Value.real (.zero .double true)).sortCompare .null ≠ .gt := by
  have zero : StorageType.real.Holds (.real (.zero .double true)) := .inr rfl
  have number : StorageType.real.Holds (.real one) := .inr rfl
  obtain ⟨_, turned, broken⟩ := StorageType.sorts_consistently zero number (.inl rfl)
  refine ⟨zero, number, .inl rfl, turned, fun greater => ?_⟩
  -- One stands between minus zero and null and is a number.
  obtain ⟨nan, _⟩ := broken.mp ⟨by decide, by decide, greater⟩
  cases nan

/-- A level that is not a number sorts alike with one and with zero, so that one stays in front of zero. -/
theorem unsorted_levels :
    (¬ ∀ (type : StorageType) (first second third : Value), type.Holds first → type.Holds second →
      type.Holds third → first.sortCompare first = .eq ∧
        second.sortCompare first = (first.sortCompare second).swap ∧
        (first.sortCompare second ≠ .gt → second.sortCompare third ≠ .gt →
          first.sortCompare third ≠ .gt)) ∧
    readings.select risingLevels = .ok readings.rows ∧
    (Value.real one).sortCompare (.real (.zero .double false)) = .gt := by
  have greater : (Value.real one).sortCompare (.real (.zero .double false)) = .gt := rfl
  refine ⟨fun consistent => ?_, ?_, greater⟩
  · exact (consistent .real (.real one) (.real .nan) (.real (.zero .double false)) (.inr rfl)
      (.inr rfl) (.inr rfl)).2.2 nofun nofun greater
  · -- The three comparisons that merging makes are settled one by one.
    let precedes := mayPrecede "level" false
    have a_b : precedes (reading "a" one) (reading "b" .nan) = true := rfl
    have c_d : precedes (reading "c" .nan) (reading "d" (.zero .double false)) = true := rfl
    have a_c : precedes (reading "a" one) (reading "c" .nan) = true := rfl
    have b_c : precedes (reading "b" .nan) (reading "c" .nan) = true := rfl
    have sorted : readings.rows.mergeSort precedes = readings.rows := by
      simp [readings, List.mergeSort, List.MergeSort.Internal.splitInTwo, a_b, c_d, a_c, b_c]
    exact congrArg Except.ok sorted

end MemoryTable

end RecordTables
