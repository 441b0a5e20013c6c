import RecordTables.Decimal.Shortest

/-! The written form of a 64-bit number: shortest digits, positional or with a power of ten. -/

namespace RecordTables

namespace Decimal

/-- A whole number in decimal digits. -/
def natText (value : Nat) : List Char := Nat.toDigits 10 value

/-- A signed whole number in decimal digits. -/
def intText (value : Int) : List Char :=
  if value < 0 then '-' :: natText value.natAbs else natText value.natAbs

/-- The least exponent written without a power of ten. -/
def leastPositional : Int := -5

/-- The least exponent from which a power of ten is written. -/
def leastScientific : Int := 16

/-- Digits with a point after the given number of them, padded with zeros on either side. -/
def positional (digits : List Char) (point : Int) : List Char :=
  -- The point stands in front of the digits, behind them, or among them.
  if point ≤ 0 then '0' :: '.' :: List.replicate (-point).toNat '0' ++ digits
  else if digits.length ≤ point.toNat then
    digits ++ List.replicate (point.toNat - digits.length) '0' ++ ['.', '0']
  else digits.take point.toNat ++ '.' :: digits.drop point.toNat

/-- One digit before the point, and the power of ten with its sign. -/
def scientific (digits : List Char) (exponent : Int) : List Char :=
  digits.take 1 ++ (if digits.length ≤ 1 then [] else '.' :: digits.drop 1) ++
    'e' :: (if exponent < 0 then '-' else '+') :: natText exponent.natAbs

/-- A positive decimal; its first digit decides between the two notations. -/
def text (decimal : Decimal) : List Char :=
  let digits := natText decimal.digits
  -- The place of the point decides between the two notations.
  let point : Int := digits.length + decimal.exponent
  if leastPositional ≤ point - 1 ∧ point - 1 < leastScientific then positional digits point
  else scientific digits (point - 1)

end Decimal

namespace Double

/-- A finite number in the fewest digits that read back; zero keeps its sign. -/
def text : Double → List Char
  | .nan => []
  | .number negative magnitude _ =>
    (if negative then ['-'] else []) ++
      -- Zero has no digits to find, but keeps its sign.
      if magnitude = 0 then ['0', '.', '0'] else (Decimal.shortest magnitude).text

end Double

end RecordTables
