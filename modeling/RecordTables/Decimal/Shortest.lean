import RecordTables.Floating.Basic

/-! The shortest decimal that names a floating point number: fewest digits first, then nearest. -/

namespace RecordTables

/-- A whole number of digits times a power of ten. -/
structure Decimal where
  digits : Nat
  exponent : Int
  deriving DecidableEq, Repr

namespace Decimal

/-- The numerator of a power of ten. -/
def powerNumerator (exponent : Int) : Nat := 10 ^ exponent.toNat

/-- The denominator of a power of ten. -/
def powerDenominator (exponent : Int) : Nat := 10 ^ (-exponent).toNat

/-- The lower end of the numbers that round to a word, in halves of the smallest positive number. -/
def lowerEnd (format : FloatFormat) (magnitude : Nat) : Nat :=
  format.units (magnitude - 1) + format.units magnitude

/-- The upper end of the numbers that round to a word, in halves of the smallest positive number. -/
def upperEnd (format : FloatFormat) (magnitude : Nat) : Nat :=
  format.units magnitude + format.units (magnitude + 1)

/-- Whether a decimal rounds to the word; the ends of the interval belong to even words. -/
def roundsTo (format : FloatFormat) (magnitude : Nat) (decimal : Decimal) : Bool :=
  let named := decimal.digits * powerNumerator decimal.exponent * 2 ^ (format.unitPower + 1)
  let low := lowerEnd format magnitude * powerDenominator decimal.exponent
  let high := upperEnd format magnitude * powerDenominator decimal.exponent
  -- A tie is rounded to the even neighbour, which so has both ends of its interval.
  if magnitude % 2 = 0 then low ≤ named && named ≤ high
  else low < named && named < high

/-- How far a decimal is from the word's exact number, on a scale set by the decimal's exponent. -/
def distance (format : FloatFormat) (magnitude : Nat) (decimal : Decimal) : Nat :=
  let named := decimal.digits * powerNumerator decimal.exponent * 2 ^ format.unitPower
  let exact := format.units magnitude * powerDenominator decimal.exponent
  (named - exact) + (exact - named)

/-- The greatest decimal with a given exponent that does not exceed the word's exact number. -/
def below (format : FloatFormat) (magnitude : Nat) (exponent : Int) : Decimal :=
  ⟨format.units magnitude * powerDenominator exponent /
    (powerNumerator exponent * 2 ^ format.unitPower), exponent⟩

/-- The decimal that follows on the same grid. -/
def next (decimal : Decimal) : Decimal := { decimal with digits := decimal.digits + 1 }

/-- The point of a decimal grid that names the word, the nearer of two and of two equally near the even. -/
def onGrid? (format : FloatFormat) (magnitude : Nat) (exponent : Int) : Option Decimal :=
  -- Of all points on a grid only the two around the exact number can be nearest to it.
  let lower := below format magnitude exponent
  let upper := lower.next
  match roundsTo format magnitude lower, roundsTo format magnitude upper with
  | false, false => none
  | true, false => some lower
  | false, true => some upper
  | true, true =>
    let near := distance format magnitude lower
    let far := distance format magnitude upper
    if near < far then some lower
    else if far < near then some upper
    else if lower.digits % 2 = 0 then some lower else some upper

/-- The exponents of the decimal grids that can name a 64-bit number, the coarsest first. -/
def gridExponents : List Int := (List.range 633).map fun (step : Nat) => 308 - (step : Int)

/-- The shortest decimal for a finite magnitude of the 64-bit format. -/
def shortest (magnitude : Nat) : Decimal :=
  (gridExponents.findSome? (onGrid? .double magnitude)).getD ⟨0, 0⟩

end Decimal

end RecordTables
