import RecordTables.Power

/-! Binary floating point formats: how a magnitude word spells an exact multiple of the smallest number. -/

namespace RecordTables

/-- A binary floating point format, given by the widths of its fraction and its exponent. -/
structure FloatFormat where
  fractionBits : Nat
  exponentBits : Nat
  deriving DecidableEq, Repr

namespace FloatFormat

/-- The 64-bit format. -/
def double : FloatFormat := ⟨52, 11⟩

/-- The 32-bit format. -/
def single : FloatFormat := ⟨23, 8⟩

/-- The magnitude word of infinity: every exponent bit is set and no fraction bit is. -/
def infinity (format : FloatFormat) : Nat :=
  (2 ^ format.exponentBits - 1) * 2 ^ format.fractionBits

/-- The smallest positive number of the format is two to the minus this power. -/
def unitPower (format : FloatFormat) : Nat :=
  2 ^ (format.exponentBits - 1) - 2 + format.fractionBits

/-- The exact number that a magnitude word stands for, counted in smallest positive numbers. -/
def units (format : FloatFormat) (magnitude : Nat) : Nat :=
  let exponent := magnitude / 2 ^ format.fractionBits
  let fraction := magnitude % 2 ^ format.fractionBits
  -- With the least exponent there is no leading bit.
  if exponent = 0 then fraction
  else (2 ^ format.fractionBits + fraction) * 2 ^ (exponent - 1)

/-- The quotient rounded to the nearest whole number, a tie going to the even one. -/
def divideToEven (numerator denominator : Nat) : Nat :=
  let quotient := numerator / denominator
  let twice := 2 * (numerator % denominator)
  if twice < denominator then quotient
  else if denominator < twice then quotient + 1
  -- Half way between two numbers the even one is taken.
  else quotient + quotient % 2

/--
The magnitude word nearest to a quotient counted in smallest positive numbers, ties to even.
Between two powers of two the words are evenly spaced, so one rounded division finds it.
-/
def nearest (format : FloatFormat) (numerator denominator : Nat) : Nat :=
  let spacing := (numerator / denominator).log2 - format.fractionBits
  -- Rounding up to a power of two carries from the fraction into the exponent.
  min (divideToEven numerator (denominator * 2 ^ spacing) + spacing * 2 ^ format.fractionBits)
    format.infinity

end FloatFormat

end RecordTables
