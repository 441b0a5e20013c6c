import Mathlib.Algebra.Ring.Nat
import RecordTables.Time.Calendar

/-! Every count of days is that of exactly one date of the calendar, whose year contains the day. -/

namespace RecordTables

namespace Date

/-- The leap years divide by four, but not by one hundred, or by four hundred. -/
theorem isLeapYear_iff (year : Int) :
    isLeapYear year = true ↔ year % 4 = 0 ∧ (year % 100 ≠ 0 ∨ year % 400 = 0) := by
  simp [isLeapYear]

/-- The length of a year is the sum of the lengths of its months. -/
theorem sum_monthLengths (year : Int) :
    ((monthLengths year).sum : Int) = daysBeforeYear (year + 1) - daysBeforeYear year := by
  -- A leap year has a day more.
  unfold monthLengths daysBeforeYear
  by_cases leap : isLeapYear year = true
  · have divides := (isLeapYear_iff year).mp leap
    simp only [leap, if_true, List.sum_cons, List.sum_nil]
    omega
  · have divides := mt (isLeapYear_iff year).mpr leap
    simp only [leap, if_false, Bool.false_eq_true, List.sum_cons, List.sum_nil]
    omega

/-- The year of a day begins no later than the day and ends behind it. -/
theorem yearOf_contains (day : Int) :
    daysBeforeYear (yearOf day) ≤ day ∧ day < daysBeforeYear (yearOf day + 1) := by
  -- The mean length of a year gives the year or one of its neighbours.
  unfold yearOf
  generalize guessed : day * 400 / 146097 = guess
  have early : daysBeforeYear (guess - 1) ≤ day := by
    unfold daysBeforeYear
    omega
  have late : day < daysBeforeYear (guess + 1 + 1) := by
    unfold daysBeforeYear
    omega
  simp only
  split
  · rename_i after
    exact ⟨after, late⟩
  · rename_i before
    split
    · rename_i earlier
      exact ⟨early, by simpa using earlier⟩
    · omega

/-- A day of the year has a month among the given ones, whose days start behind those of the months before. -/
theorem monthAndDay_spec : ∀ (lengths : List Nat) (first day : Nat), day < lengths.sum →
    ∃ index : Nat, ∃ length, lengths[index]? = some length ∧
      (monthAndDay lengths first day).1 = first + index ∧
      1 ≤ (monthAndDay lengths first day).2 ∧ (monthAndDay lengths first day).2 ≤ length ∧
      (lengths.take index).sum + (monthAndDay lengths first day).2 = day + 1
  -- The recursion is on the months that are left, with the number of the first of them.
  | [], _, _, within => by simp at within
  | length :: lengths, first, day, within => by
    unfold monthAndDay
    split
    · exact ⟨0, length, rfl, rfl, by omega, by omega, by simp⟩
    · -- The day lies behind the first month, and its place is counted from there.
      rename_i behind
      have left : day - length < lengths.sum := by
        simp only [List.sum_cons] at within
        omega
      obtain ⟨index, last, found, month, positive, bounded, place⟩ :=
        monthAndDay_spec lengths (first + 1) (day - length) left
      refine ⟨index + 1, last, by simpa using found, by omega, positive, bounded, ?_⟩
      rw [List.take_succ_cons, List.sum_cons]
      omega

/-- The months of a year are numbered from one to twelve. -/
theorem length_monthLengths (year : Int) : (monthLengths year).length = 12 := rfl

/-- The year of a day and its place in the year. -/
theorem ofDayNumber_spec (number : Int) :
    ∃ index length : Nat, (monthLengths (ofDayNumber number).year)[index]? = some length ∧
      (ofDayNumber number).month = index + 1 ∧ 1 ≤ (ofDayNumber number).day ∧
      (ofDayNumber number).day ≤ length ∧
      (((monthLengths (ofDayNumber number).year).take index).sum + (ofDayNumber number).day : Int) =
        number + daysBeforeYear 1970 - daysBeforeYear (ofDayNumber number).year + 1 := by
  -- The year of the day holds it, so that the place in the year is one of the days of its months.
  obtain ⟨begun, ended⟩ := yearOf_contains (number + daysBeforeYear 1970)
  have sum := sum_monthLengths (yearOf (number + daysBeforeYear 1970))
  have within : (number + daysBeforeYear 1970 -
      daysBeforeYear (yearOf (number + daysBeforeYear 1970))).toNat <
        (monthLengths (yearOf (number + daysBeforeYear 1970))).sum := by omega
  obtain ⟨index, length, found, month, positive, bounded, place⟩ := monthAndDay_spec _ 1 _ within
  refine ⟨index, length, found, ?_, positive, bounded, ?_⟩
  · rw [Nat.add_comm index 1]
    exact month
  · have year : (ofDayNumber number).year = yearOf (number + daysBeforeYear 1970) := rfl
    have day : (ofDayNumber number).day = (monthAndDay
      (monthLengths (yearOf (number + daysBeforeYear 1970))) 1 (number + daysBeforeYear 1970 -
        daysBeforeYear (yearOf (number + daysBeforeYear 1970))).toNat).2 := rfl
    rw [year, day]
    omega

/-- The date of a day is in the calendar. -/
theorem isValid_ofDayNumber (number : Int) : (ofDayNumber number).isValid = true := by
  -- The place among the twelve lengths is that of the month, and the day is within the length there.
  obtain ⟨index, length, found, month, positive, bounded, _⟩ := ofDayNumber_spec number
  have early : index < 12 := by
    have bound := (List.getElem?_eq_some_iff.mp found).1
    rwa [length_monthLengths] at bound
  have named : (monthLengths (ofDayNumber number).year)[(ofDayNumber number).month - 1]? =
      some length := by rw [month, Nat.add_sub_cancel, found]
  simp only [isValid, named, Option.getD_some, Bool.and_eq_true, decide_eq_true_eq]
  omega

/-- The days before the date of a day are as many as were counted. -/
theorem dayNumber_ofDayNumber (number : Int) : (ofDayNumber number).dayNumber = number := by
  -- The days before the month are added up in both, from the left and from the right.
  obtain ⟨index, _, _, month, _, _, place⟩ := ofDayNumber_spec number
  have before : daysBeforeMonth (ofDayNumber number).year (ofDayNumber number).month =
      ((monthLengths (ofDayNumber number).year).take index).sum := by
    rw [daysBeforeMonth, month, Nat.add_sub_cancel, ← List.sum_eq_foldl_nat]
  rw [dayNumber, before]
  omega

/-- The number of a month and that of a day have two digits at most. -/
theorem ofDayNumber_lt (number : Int) :
    (ofDayNumber number).month < 100 ∧ (ofDayNumber number).day < 100 := by
  -- There are twelve months, and none is longer than 31 days.
  obtain ⟨index, length, found, month, _, bounded, _⟩ := ofDayNumber_spec number
  obtain ⟨early, rfl⟩ := List.getElem?_eq_some_iff.mp found
  have longest : ∀ length ∈ monthLengths (ofDayNumber number).year, length ≤ 31 := by
    unfold monthLengths
    cases isLeapYear (ofDayNumber number).year <;> decide
  have last := longest _ (List.getElem_mem early)
  rw [length_monthLengths] at early
  omega

end Date

end RecordTables
