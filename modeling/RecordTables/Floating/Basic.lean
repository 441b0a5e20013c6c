import RecordTables.Floating.Format

/-! Floating point numbers: one not-a-number, signed zeros and infinities, and exact rounding into a format. -/

namespace RecordTables

/-- A floating point number; what sort of not-a-number it is does not matter. -/
inductive Floating (format : FloatFormat) where
  | nan
  | number (negative : Bool) (magnitude : Nat) (bounded : magnitude ≤ format.infinity)
  deriving DecidableEq

/-- The numbers of the 64-bit format. -/
abbrev Double := Floating FloatFormat.double

/-- The numbers of the 32-bit format. -/
abbrev Single := Floating FloatFormat.single

namespace Floating

variable {format : FloatFormat}

/-- The number nearest to a quotient of smallest positive numbers. -/
def ofUnits (format : FloatFormat) (negative : Bool) (numerator denominator : Nat) : Floating format :=
  .number negative (format.nearest numerator denominator) (Nat.min_le_right _ _)

/-- Zero with a sign. -/
def zero (format : FloatFormat) (negative : Bool) : Floating format :=
  .number negative 0 (Nat.zero_le _)

/-- The nearest number to a whole number. -/
def ofInt (format : FloatFormat) (value : Int) : Floating format :=
  ofUnits format (decide (value < 0)) (value.natAbs * 2 ^ format.unitPower) 1

/-- Whether the number is neither infinite nor a not-a-number. -/
def isFinite : Floating format → Bool
  | .nan => false
  | .number _ magnitude _ => magnitude < format.infinity

/-- Where a number stands among the others; both zeros stand at zero. -/
def rank (negative : Bool) (magnitude : Nat) : Int :=
  if negative then -(magnitude : Int) else magnitude

/-- The order of two numbers, absent when one of them is a not-a-number. -/
def compare? : Floating format → Floating format → Option Ordering
  | .number negative magnitude _, .number negative' magnitude' _ =>
    some (compare (rank negative magnitude) (rank negative' magnitude'))
  | _, _ => none

/-- Equality as numbers: the zeros are equal and a not-a-number differs from itself. -/
def same (left right : Floating format) : Bool :=
  left.compare? right == some .eq

/-- The nearest number of another format, an overflow giving an infinity. -/
def convert (target : FloatFormat) : Floating format → Floating target
  | .nan => .nan
  | .number negative magnitude _ =>
    -- Infinity has units as numbers have, but must not be rounded by them.
    if magnitude = format.infinity then .number negative target.infinity (Nat.le_refl _)
    else ofUnits target negative
      (format.units magnitude * 2 ^ target.unitPower) (2 ^ format.unitPower)

end Floating

namespace Double

/-- The 64-bit number equal to a 32-bit one. -/
def ofSingle (value : Single) : Double := value.convert .double

/-- The nearest 32-bit number. -/
def toSingle (value : Double) : Single := value.convert .single

end Double

end RecordTables
