import RecordTables.Decimal.Numeral
import RecordTables.Json.Basic

/-! The document number that a numeral stands for. -/

namespace RecordTables

namespace Numeral

/--
The document number of a numeral: whole numerals that fit in 64 bits stay whole, except minus zero.
-/
def number? (numeral : Numeral) : Option JsonNumber :=
  let value := digitsValue numeral.whole
  -- Whole numbers of 64 bits are kept exactly, and all others are floats.
  if numeral.isWhole && !numeral.negative && value < 2 ^ 64 then JsonNumber.ofInt? value
  -- Minus zero is a float, for it has a sign.
  else if numeral.isWhole && numeral.negative && 0 < value && value ≤ 2 ^ 63 then
    JsonNumber.ofInt? (-(value : Int))
  else numeral.double?.bind JsonNumber.ofDouble?

end Numeral

end RecordTables
