import RecordTables.Metadata.Basic

/-! The compact text of metadata, written without a document in between. -/

namespace RecordTables

namespace Metadatum

mutual

/-- The compact text of a metadata value; a number that is not finite is written as null. -/
def compact : Metadatum → List Char
  | .null => ['n', 'u', 'l', 'l']
  | .boolean true => ['t', 'r', 'u', 'e']
  | .boolean false => ['f', 'a', 'l', 's', 'e']
  | .number value => if value.isFinite then Double.text value else ['n', 'u', 'l', 'l']
  | .text value => Json.stringText value
  | .group [] => ['\x7b', '\x7d']
  | .group ((name, value) :: rest) =>
    '\x7b' :: Json.stringText name ++ ':' :: value.compact ++ entriesText rest ++ ['\x7d']

/-- The further entries of a group, a comma before each. -/
def entriesText : List (String × Metadatum) → List Char
  | [] => []
  | (name, value) :: rest => ',' :: Json.stringText name ++ ':' :: value.compact ++ entriesText rest

end

/-- The compact text of a metadata value as a string. -/
def render (metadatum : Metadatum) : String := String.ofList metadatum.compact

end Metadatum

end RecordTables
