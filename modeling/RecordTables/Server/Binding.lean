import RecordTables.Column.StorageType
import RecordTables.Value.Basic

/-! Values as they are bound to the placeholders of a statement. -/

namespace RecordTables

/-- The types that values are bound with. -/
inductive BindType where
  | text
  | int8
  | float8
  | bool
  | timestamptz
  | jsonb
  | textArray
  deriving DecidableEq, Repr

/-- The name of a type that values are bound with. -/
def BindType.name : BindType → String
  | .text => "text"
  | .int8 => "int8"
  | .float8 => "float8"
  | .bool => "bool"
  | .timestamptz => "timestamptz"
  | .jsonb => "jsonb"
  | .textArray => "_text"

/-- A value bound with a type. -/
structure BoundValue where
  type : BindType
  value : Value

namespace BoundValue

/-- The type that null is bound with for a column; integers and reals are bound at full width. -/
def nullType : StorageType → BindType
  | .text => .text
  | .integer => .int8
  | .real => .float8
  | .boolean => .bool
  | .timestamp => .timestamptz
  | .document => .jsonb
  | .textList => .textArray

/-- A value bound for a column, or for no column in particular. -/
def ofValue (storage : Option StorageType) (value : Value) : BoundValue :=
  let type := match value with
    -- Null is bound with the type of its column, for it has none of its own.
    | .null => nullType (storage.getD .text)
    | .text _ => .text
    | .integer _ => .int8
    | .real _ => .float8
    | .boolean _ => .bool
    | .timestamp _ => .timestamptz
    | .document _ => .jsonb
    | .textList _ => .textArray
  ⟨type, value⟩

/-- A text, or null in its place. -/
def ofText? (text : Option String) : BoundValue :=
  ⟨.text, match text with
    | some text => .text text
    | none => .null⟩

end BoundValue

end RecordTables
