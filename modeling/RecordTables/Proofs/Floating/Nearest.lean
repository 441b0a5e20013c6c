import RecordTables.Floating.Basic

/-! The nearest float to a whole number of 64 bits is finite. -/

namespace RecordTables

namespace FloatFormat

/-- Rounding to a whole number adds one at most. -/
theorem divideToEven_le (numerator denominator : Nat) :
    divideToEven numerator denominator ≤ numerator / denominator + 1 := by
  -- The quotient is kept or one is added, whichever way a tie is decided.
  unfold divideToEven
  simp only
  split
  · omega
  · split <;> omega

/-- The word nearest to a number below a power of two is in the binade below that power, or starts the next one. -/
theorem nearest_le {format : FloatFormat} {numerator power : Nat} (bounded : numerator < 2 ^ power)
    (wide : format.fractionBits < power) :
    format.nearest numerator 1 ≤ (power - format.fractionBits + 1) * 2 ^ format.fractionBits := by
  have spacing : numerator.log2 - format.fractionBits + 2 ≤ power - format.fractionBits + 1 := by
    rcases Nat.eq_zero_or_pos numerator with zero | positive
    · rw [zero, Nat.log2_zero]
      omega
    · have log := (Nat.log2_lt (Nat.ne_of_gt positive)).mpr bounded
      omega
  -- The spacing leaves one digit more than there are in the fraction.
  have quotient : numerator / (1 * 2 ^ (numerator.log2 - format.fractionBits)) <
      2 * 2 ^ format.fractionBits := by
    refine Nat.div_lt_of_lt_mul (Nat.lt_of_lt_of_le Nat.lt_log2_self ?_)
    rw [Nat.one_mul, ← Nat.pow_succ', ← Nat.pow_add]
    exact Nat.pow_le_pow_right (by decide) (by omega)
  have rounded := divideToEven_le numerator (1 * 2 ^ (numerator.log2 - format.fractionBits))
  refine Nat.le_trans (Nat.min_le_left ..) (Nat.le_trans ?_ (Nat.mul_le_mul_right _ spacing))
  rw [Nat.div_one, Nat.add_mul]
  omega

end FloatFormat

namespace Floating

/-- The nearest 64-bit float to a whole number of 64 bits, with or without a sign, is finite. -/
theorem isFinite_ofInt {value : Int} (lower : -(2 ^ 63) ≤ value) (upper : value < 2 ^ 64) :
    (ofInt .double value).isFinite = true := by
  -- In the units of the format the number is below a power of two, and the place of that power is a
  -- place of a finite number.
  have magnitude : value.natAbs < 2 ^ 64 := by omega
  have scaled : ∀ power, value.natAbs * 2 ^ power < 2 ^ (64 + power) := by
    intro power
    rw [Nat.pow_add]
    exact Nat.mul_lt_mul_of_pos_right magnitude (Nat.two_pow_pos power)
  have wide : FloatFormat.double.fractionBits < 64 + FloatFormat.double.unitPower := by decide
  have nearest := FloatFormat.nearest_le (scaled FloatFormat.double.unitPower) wide
  have below : (64 + FloatFormat.double.unitPower - FloatFormat.double.fractionBits + 1) *
      2 ^ FloatFormat.double.fractionBits < FloatFormat.double.infinity := by decide
  exact decide_eq_true (Nat.lt_of_le_of_lt nearest below)

end Floating

end RecordTables
