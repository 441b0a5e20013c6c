import RecordTables.Metadata.Basic
import RecordTables.Json.Reader

/-! Metadata read from JSON as written, without a document in between. -/

namespace RecordTables

namespace Metadatum

mutual

/-- The metadata value written in a JSON text; of entries with one name the last counts. -/
def ofWritten? : Written → Option Metadatum
  | .null => some .null
  | .boolean value => some (.boolean value)
  | .number value => value.map fun held => .number held.toDouble
  | .string value => value.map .text
  | .array _ => none
  | .object members => (entriesOfWritten? members).map fun entries => .group (sortEntries entries)

/-- The entries written as members, in their order. -/
def entriesOfWritten? : List (WrittenText × Written) → Option (List (String × Metadatum))
  | [] => some []
  | (name, value) :: rest =>
    match name, ofWritten? value, entriesOfWritten? rest with
    | some name, some entry, some entries => some ((name, entry) :: entries)
    | _, _, _ => none

end

end Metadatum

namespace Metadata

/-- The metadata written as an object. -/
def ofWritten? : Written → Option Metadata
  | .object members => (Metadatum.entriesOfWritten? members).map sortEntries
  | _ => none

/-- Reads metadata from a JSON text. -/
def read? (source : String) : Option Metadata := (Json.readWritten? source).bind ofWritten?

end Metadata

/-- Reads a metadata value from a JSON text. -/
def Metadatum.read? (source : String) : Option Metadatum := (Json.readWritten? source).bind ofWritten?

end RecordTables
