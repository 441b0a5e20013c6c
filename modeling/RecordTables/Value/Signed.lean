import RecordTables.Power

/-! Signed integers of a given width. -/

namespace RecordTables

/-- A signed integer that fits in a number of bits. -/
structure Signed (bits : Nat) where
  value : Int
  lower : -(2 ^ (bits - 1)) ≤ value
  upper : value < 2 ^ (bits - 1)
  deriving DecidableEq

namespace Signed

/-- The integer in the given width, if it fits. -/
def ofInt? (bits : Nat) (value : Int) : Option (Signed bits) :=
  if fits : -(2 ^ (bits - 1)) ≤ value ∧ value < 2 ^ (bits - 1) then some ⟨value, fits.1, fits.2⟩
  else none

/-- Zero fits in every width. -/
def zero (bits : Nat) : Signed bits :=
  ⟨0, Int.neg_nonpos_of_nonneg (Int.le_of_lt (Int.pow_pos (by decide))), Int.pow_pos (by decide)⟩

/-- An integer of at most 64 bits, in 64 bits. -/
def widen {bits : Nat} (narrow : bits ≤ 64) (integer : Signed bits) : Signed 64 :=
  have power : (2 : Int) ^ (bits - 1) ≤ 2 ^ (64 - 1) := by
    have naturals : 2 ^ (bits - 1) ≤ 2 ^ (64 - 1) :=
      Nat.pow_le_pow_right (by decide) (Nat.sub_le_sub_right narrow 1)
    exact_mod_cast naturals
  ⟨integer.value, Int.le_trans (Int.neg_le_neg power) integer.lower,
    Int.lt_of_lt_of_le integer.upper power⟩

end Signed

end RecordTables
