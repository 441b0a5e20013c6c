/-! Blank characters, and text with the blanks at its ends removed. -/

namespace RecordTables

namespace Text

/-- The blank characters of Unicode. -/
def isBlank (character : Char) : Bool :=
  let point := character.toNat
  (0x9 ≤ point && point ≤ 0xd) || point == 0x20 || point == 0x85 || point == 0xa0 ||
    point == 0x1680 || (0x2000 ≤ point && point ≤ 0x200a) || point == 0x2028 ||
    point == 0x2029 || point == 0x202f || point == 0x205f || point == 0x3000

/-- The text from its first character that is not blank. -/
def dropBlanks (text : List Char) : List Char := text.dropWhile isBlank

/-- The text between its first and its last character that is not blank. -/
def trim (text : List Char) : List Char := (dropBlanks (dropBlanks text).reverse).reverse

end Text

end RecordTables
