import RecordTables.Time.Text

/-! The digits of a whole number: they are digits, begin with a zero only for zero, and give back the number. -/

namespace RecordTables

/-- The digits are ten characters in a row. -/
theorem Timestamp.isDigit_iff {digit : Char} :
    isDigit digit = true ↔ '0'.toNat ≤ digit.toNat ∧ digit.toNat ≤ '9'.toNat := by
  simp only [isDigit, Bool.and_eq_true, decide_eq_true_eq, Char.le_def, UInt32.le_iff_toNat_le]
  rfl

namespace Decimal

/-- The text of a whole number consists of digits. -/
theorem isDigit_natText {value : Nat} {digit : Char} (member : digit ∈ natText value) :
    Timestamp.isDigit digit = true := by
  have digits := Nat.isDigit_of_mem_toDigits (by decide) (by decide) member
  simpa [Char.isDigit, Timestamp.isDigit, Char.le_def] using digits

/-- A whole number has a digit at least. -/
theorem natText_ne_nil (value : Nat) : natText value ≠ [] := Nat.toDigits_ne_nil

/-- The digits of a whole number give back the number. -/
theorem digitsValue_natText (value : Nat) : Timestamp.digitsValue (natText value) = value :=
  Nat.ofDigitChars_ten_toDigits

/-- Only the digit zero stands for zero. -/
theorem eq_zero_of_isDigit {digit : Char} (isDigit : Timestamp.isDigit digit = true)
    (zero : digit.toNat - '0'.toNat = 0) : digit = '0' := by
  have lower := (Timestamp.isDigit_iff.mp isDigit).1
  exact Char.toNat_inj.mp (by omega)

/-- Only the text of zero begins with a zero. -/
theorem head_natText {value : Nat} (positive : 0 < value) :
    ∃ first rest, natText value = first :: rest ∧ first ≠ '0' := by
  -- The last digit is cut off as long as there is another one.
  induction value using Nat.strongRecOn with
  | _ value ih =>
    by_cases small : value < 10
    · refine ⟨value.digitChar, [], Nat.toDigits_of_lt_base small, ?_⟩
      have digits : ∀ digit : Fin 10, 0 < digit.val → digit.val.digitChar ≠ '0' := by decide
      exact digits ⟨value, small⟩ positive
    · obtain ⟨first, rest, text, nonzero⟩ := ih (value / 10) (by omega) (by omega)
      refine ⟨first, rest ++ [(value % 10).digitChar], ?_, nonzero⟩
      have longer := Nat.toDigits_of_base_le (b := 10) (n := value) (by decide) (by omega)
      rw [natText, longer, ← natText, text, List.cons_append]

end Decimal

namespace Timestamp

/-- Zeros in front do not count. -/
theorem digitsValue_zeros (count : Nat) (digits : List Char) :
    digitsValue (List.replicate count '0' ++ digits) = digitsValue digits := by
  induction count with
  | zero => rfl
  | succ count ih => exact ih

/-- A padded number consists of digits. -/
theorem isDigit_padded {width value : Nat} {digit : Char} (member : digit ∈ padded width value) :
    isDigit digit = true := by
  -- The characters in front are zeros, and the others digits of the number.
  rcases List.mem_append.mp member with zero | given
  · rw [(List.mem_replicate.mp zero).2]
    rfl
  · exact Decimal.isDigit_natText given

/-- A padded number gives back the number. -/
theorem digitsValue_padded (width value : Nat) : digitsValue (padded width value) = value := by
  rw [padded, digitsValue_zeros, Decimal.digitsValue_natText]

/-- A padded number is as long as it should be, if the number is not too great. -/
theorem length_padded {width value : Nat} (positive : 0 < width) (fits : value < 10 ^ width) :
    (padded width value).length = width := by
  -- A number below the power has no more digits than the width, and zeros make up for the rest.
  have bounded : (Decimal.natText value).length ≤ width :=
    (Nat.length_toDigits_le_iff (by decide) positive).mpr fits
  simp only [padded, List.length_append, List.length_replicate]
  omega

end Timestamp

end RecordTables
