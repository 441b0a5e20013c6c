import RecordTables.Json.Basic
import RecordTables.Decimal.Text

/-! The compact text of a JSON document. -/

namespace RecordTables

namespace Json

/-- One hexadecimal digit in lower case. -/
def hexDigit (value : Nat) : Char := Nat.digitChar value

/-- A character inside a string: quotes, backslashes and control characters are escaped. -/
def characterText (character : Char) : List Char :=
  if character = '"' then ['\\', '"']
  else if character = '\\' then ['\\', '\\']
  else if character = '\x08' then ['\\', 'b']
  else if character = '\t' then ['\\', 't']
  else if character = '\n' then ['\\', 'n']
  else if character = '\x0c' then ['\\', 'f']
  else if character = '\r' then ['\\', 'r']
  else if character.toNat < 0x20 then
    ['\\', 'u', '0', '0', hexDigit (character.toNat / 16), hexDigit (character.toNat % 16)]
  else [character]

/-- A string between quotes. -/
def stringText (text : String) : List Char :=
  '"' :: text.toList.flatMap characterText ++ ['"']

/-- A number: whole numbers in digits only, floats always with a point or a power of ten. -/
def numberText : JsonNumber → List Char
  | .whole value _ _ => Decimal.intText value
  | .real value _ => Double.text value

mutual

/-- The compact text of a document. -/
def text : Json → List Char
  | .null => ['n', 'u', 'l', 'l']
  | .boolean true => ['t', 'r', 'u', 'e']
  | .boolean false => ['f', 'a', 'l', 's', 'e']
  | .number value => numberText value
  | .string value => stringText value
  | .array [] => ['[', ']']
  | .array (item :: rest) => '[' :: item.text ++ itemsText rest ++ [']']
  | .object [] => ['\x7b', '\x7d']
  | .object ((name, value) :: rest) =>
    '\x7b' :: stringText name ++ ':' :: value.text ++ membersText rest ++ ['\x7d']

/-- The further items of an array, a comma before each. -/
def itemsText : List Json → List Char
  | [] => []
  | item :: rest => ',' :: item.text ++ itemsText rest

/-- The further members of an object, a comma before each. -/
def membersText : List (String × Json) → List Char
  | [] => []
  | (name, value) :: rest => ',' :: stringText name ++ ':' :: value.text ++ membersText rest

end

/-- The compact text of a document as a string. -/
def render (document : Json) : String := String.ofList document.text

end Json

end RecordTables
