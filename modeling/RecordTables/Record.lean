import RecordTables.Dictionary
import RecordTables.Failure
import RecordTables.Value.Field

/-! Records: the values of one entity by field name. -/

namespace RecordTables

/-- The values of one entity by the names of its fields. -/
abbrev Record := Dictionary Value

namespace Record

/-- Writes what a field of some kind holds. -/
def put (record : Record) (field : String) (kind : FieldKind) (content : kind.Carrier) : Record :=
  record.insert field (kind.encode content)

/-- Removes a field and reads what it holds; the field is gone even when it does not fit. -/
def take (record : Record) (field : String) (kind : FieldKind) :
    Except Failure kind.Carrier × Record :=
  match record.get? field with
  | none => (.error (.missingValue field), record)
  | some value =>
    -- The value is taken out even if it does not fit, and the failure has no table yet.
    ((kind.decode value).mapError fun fault => .rowScan "" field fault.message, record.erase field)

end Record

end RecordTables
