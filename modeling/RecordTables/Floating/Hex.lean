import RecordTables.Floating.Basic

/-! The bit pattern of a floating point number written as hexadecimal digits. -/

namespace RecordTables

namespace Floating

variable {format : FloatFormat}

/-- The place of the sign bit in the format's bit pattern. -/
def signWeight (format : FloatFormat) : Nat := 2 ^ (format.exponentBits + format.fractionBits)

/-- The number with a given bit pattern. -/
def ofBits (format : FloatFormat) (bits : Nat) : Floating format :=
  let magnitude := bits % signWeight format
  -- Whatever is above infinity is no number, with either sign.
  if bounded : magnitude ≤ format.infinity then
    .number (bits / signWeight format % 2 == 1) magnitude bounded
  else .nan

/-- The hexadecimal digits of a number, most significant first, in a fixed width. -/
def hexDigits : Nat → Nat → List Char
  | 0, _ => []
  | width + 1, value => hexDigits width (value / 16) ++ [Nat.digitChar (value % 16)]

/-- The bit pattern in lower-case hexadecimal digits, and a not-a-number by name. -/
def toHex : Floating format → String
  | .nan => "nan"
  | .number negative magnitude _ =>
    let bits := magnitude + if negative then signWeight format else 0
    String.ofList (hexDigits ((format.exponentBits + format.fractionBits + 1) / 4) bits)

/-- The value of a hexadecimal digit of either case. -/
def hexValue? (digit : Char) : Option Nat :=
  if '0' ≤ digit ∧ digit ≤ '9' then some (digit.toNat - '0'.toNat)
  else if 'a' ≤ digit ∧ digit ≤ 'f' then some (digit.toNat - 'a'.toNat + 10)
  else if 'A' ≤ digit ∧ digit ≤ 'F' then some (digit.toNat - 'A'.toNat + 10)
  else none

/-- The number named by hexadecimal digits. -/
def hexNumber? (digits : List Char) : Option Nat :=
  digits.foldlM (fun total digit => (hexValue? digit).map (16 * total + ·)) 0

/-- Reads what `toHex` writes. -/
def ofHex? (format : FloatFormat) (text : String) : Option (Floating format) :=
  if text = "nan" then some .nan
  else (hexNumber? text.toList).map (ofBits format)

end Floating

end RecordTables
