import RecordTables.Json.Basic

/-! JSON as written: members in their order with repeated names, and values that are no document's. -/

namespace RecordTables

/-- The content of a written string, absent when an escape names half of a surrogate pair alone. -/
abbrev WrittenText := Option String

/-- The number of a written numeral, absent when it is too large for a float. -/
abbrev WrittenNumber := Option JsonNumber

/-- A JSON text taken apart but not yet read as a document. -/
inductive Written where
  | null
  | boolean (value : Bool)
  | number (value : WrittenNumber)
  | string (text : WrittenText)
  | array (items : List Written)
  | object (members : List (WrittenText × Written))

namespace Written

mutual

/-- The document of a JSON text; of members with one name the last counts. -/
def document? : Written → Option Json
  | .null => some .null
  | .boolean value => some (.boolean value)
  | .number value => value.map .number
  | .string text => text.map .string
  | .array items => (documents? items).map .array
  -- A document has its members in the order of their names, and of a name that comes twice the last.
  | .object members => (members? members).map fun entries => .object (sortEntries entries)

/-- The documents of a list of items. -/
def documents? : List Written → Option (List Json)
  | [] => some []
  | item :: rest =>
    match document? item, documents? rest with
    | some document, some documents => some (document :: documents)
    | _, _ => none

/-- The names and documents of members, as written. -/
def members? : List (WrittenText × Written) → Option (List (String × Json))
  | [] => some []
  | (name, value) :: rest =>
    match name, document? value, members? rest with
    | some name, some document, some entries => some ((name, document) :: entries)
    | _, _, _ => none

end

end Written

namespace Json

mutual

/-- A document as it would be written. -/
def written : Json → Written
  | .null => .null
  | .boolean value => .boolean value
  | .number value => .number (some value)
  | .string value => .string (some value)
  | .array items => .array (writtenItems items)
  | .object members => .object (writtenMembers members)

/-- The items of an array as they would be written. -/
def writtenItems : List Json → List Written
  | [] => []
  | item :: rest => item.written :: writtenItems rest

/-- The members of an object as they would be written. -/
def writtenMembers : List (String × Json) → List (WrittenText × Written)
  | [] => []
  | (name, value) :: rest => (some name, value.written) :: writtenMembers rest

end

end Json

end RecordTables
