import RecordTables.Floating.Basic

/-! Decimal numerals: a 64-bit significand is gathered from the digits and then scaled by a power of ten. -/

namespace RecordTables

/-- A numeral as written: whole digits, the digits after a point, and a power of ten. -/
structure Numeral where
  negative : Bool
  whole : List Nat
  fraction : Option (List Nat)
  exponent : Option Int
  deriving DecidableEq, Repr

namespace Numeral

/-- The significand stays below this bound. -/
def significandBound : Nat := 2 ^ 64

/--
Appends digits to a significand until one would no longer fit; the count says how many did.
-/
def gather : Nat → List Nat → Nat × Nat
  | significand, [] => (significand, 0)
  | significand, digit :: rest =>
    -- Digits that do not fit any more are dropped, and counted by the caller.
    if 10 * significand + digit < significandBound then
      let (gathered, count) := gather (10 * significand + digit) rest
      (gathered, count + 1)
    else (significand, 0)

/-- The nearest 64-bit number to a power of ten, as a count of smallest positive numbers. -/
def tenUnits (power : Nat) : Nat :=
  FloatFormat.double.units (FloatFormat.double.nearest (10 ^ power * 2 ^ FloatFormat.double.unitPower) 1)

/-- The greatest power of ten that is a finite 64-bit number. -/
def greatestPower : Nat := 308

/-- A magnitude multiplied by a power of ten, rounded once; absent when it overflows. -/
def scaleUp? (magnitude power : Nat) : Option Nat :=
  let scaled := FloatFormat.double.nearest
    (FloatFormat.double.units magnitude * tenUnits power) (2 ^ FloatFormat.double.unitPower)
  if scaled < FloatFormat.double.infinity then some scaled else none

/-- A magnitude divided by a power of ten, rounded once. -/
def scaleDown (magnitude power : Nat) : Nat :=
  FloatFormat.double.nearest
    (FloatFormat.double.units magnitude * 2 ^ FloatFormat.double.unitPower) (tenUnits power)

/-- A magnitude scaled by a power of ten; powers below the least finite one are taken in steps. -/
def scale? (magnitude : Nat) (power : Int) : Option Nat :=
  if magnitude = 0 then some 0
  else if 0 ≤ power then
    if power ≤ greatestPower then scaleUp? magnitude power.toNat else none
  else
    -- Two full steps leave nothing of any significand.
    let depth := (-power).toNat
    if depth ≤ greatestPower then some (scaleDown magnitude depth)
    else if depth ≤ 2 * greatestPower then
      some (scaleDown (scaleDown magnitude greatestPower) (depth - greatestPower))
    else some 0

/-- The magnitude that a numeral stands for, absent when it is too large. -/
def magnitude? (numeral : Numeral) : Option Nat :=
  let (whole, wholeCount) := gather 0 numeral.whole
  let (significand, fractionCount) := gather whole (numeral.fraction.getD [])
  -- Whole digits that did not fit still count as places; fraction digits count when they were taken.
  let unread := numeral.whole.length - wholeCount
  let power : Int := unread - fractionCount + numeral.exponent.getD 0
  scale? (FloatFormat.double.nearest (significand * 2 ^ FloatFormat.double.unitPower) 1) power

/-- The number that a numeral stands for, absent when it is too large. -/
def double? (numeral : Numeral) : Option Double :=
  numeral.magnitude?.bind fun magnitude =>
    if bounded : magnitude ≤ FloatFormat.double.infinity then
      some (.number numeral.negative magnitude bounded)
    else none

/-- Whether the numeral has neither a point nor a power of ten. -/
def isWhole (numeral : Numeral) : Bool := numeral.fraction.isNone && numeral.exponent.isNone

/-- The number with the given digits. -/
def digitsValue (digits : List Nat) : Nat := digits.foldl (fun total digit => 10 * total + digit) 0

end Numeral

end RecordTables
