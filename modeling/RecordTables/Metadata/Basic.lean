import RecordTables.Json.Basic
import RecordTables.Json.Text

/-! Free-form metadata: named entries that nest, without lists. -/

namespace RecordTables

/-- One metadata value. The entries of a group are in ascending order of their names. -/
inductive Metadatum where
  | null
  | boolean (value : Bool)
  | number (value : Double)
  | text (value : String)
  | group (entries : List (String × Metadatum))

/-- Metadata by name. -/
abbrev Metadata := List (String × Metadatum)

/-- Why a document is not metadata. -/
inductive MetadataFault where
  | arrayFound
  | notAnObject (document : Json)

/-- What is said about a document that is not metadata. -/
def MetadataFault.message : MetadataFault → String
  | .arrayFound => "arrays are not supported in metadata"
  | .notAnObject document => "expected a JSON object, got " ++ document.render

namespace Metadatum

mutual

/-- The document of a metadata value; a number that is not finite becomes null. -/
def toJson : Metadatum → Json
  | .null => .null
  | .boolean value => .boolean value
  | .number value => Json.ofDouble value
  | .text value => .string value
  | .group entries => .object (membersToJson entries)

/-- The members that spell metadata entries. -/
def membersToJson : List (String × Metadatum) → List (String × Json)
  | [] => []
  | (name, value) :: rest => (name, value.toJson) :: membersToJson rest

end

mutual

/-- The metadata value of a document, whose numbers all become floats. -/
def ofJson : Json → Except MetadataFault Metadatum
  | .null => .ok .null
  | .boolean value => .ok (.boolean value)
  | .number value => .ok (.number value.toDouble)
  | .string value => .ok (.text value)
  -- Entries nest, but a list has no place among them.
  | .array _ => .error .arrayFound
  | .object members => (ofMembers members).map .group

/-- The metadata entries of an object's members, up to the first that is none. -/
def ofMembers : List (String × Json) → Except MetadataFault (List (String × Metadatum))
  | [] => .ok []
  | (name, document) :: rest =>
    match ofJson document with
    | .error fault => .error fault
    | .ok value => (ofMembers rest).map ((name, value) :: ·)

end

end Metadatum

namespace Metadata

/-- The document of metadata. -/
def toJson (metadata : Metadata) : Json := .object (Metadatum.membersToJson metadata)

/-- The metadata of a document; null stands for no entries. -/
def ofJson : Json → Except MetadataFault Metadata
  | .object members => Metadatum.ofMembers members
  | .null => .ok []
  | document => .error (.notAnObject document)

end Metadata

end RecordTables
