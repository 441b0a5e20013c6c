import RecordTables.Decimal.Text

/-! The shape of a field's values, whatever store they go to. -/

namespace RecordTables

/-- What a field holds. -/
inductive Shape where
  | text
  | signed (bits : Nat)
  | unsigned (bits : Nat)
  | floating (bits : Nat)
  | boolean
  | timestamp
  | anything
  | bytes
  | mapping (key value : Shape)
  | sequence (item : Shape)
  | structure (name : String)
  deriving DecidableEq, Repr

/-- The written name of a shape. -/
def Shape.describe : Shape → String
  | .text => "string"
  | .signed bits => "i" ++ String.ofList (Decimal.natText bits)
  | .unsigned bits => "u" ++ String.ofList (Decimal.natText bits)
  | .floating bits => "f" ++ String.ofList (Decimal.natText bits)
  | .boolean => "bool"
  | .timestamp => "timestamp"
  | .anything => "any"
  | .bytes => "bytes"
  | .mapping key value => "map<" ++ key.describe ++ ", " ++ value.describe ++ ">"
  | .sequence item => "sequence<" ++ item.describe ++ ">"
  | .structure name => "struct " ++ name

/-- The types that a field may be declared with. -/
inductive FieldType where
  | text
  | signed (bits : Nat)
  | unsigned (bits : Nat)
  | floating (bits : Nat)
  | boolean
  | timestamp
  | document
  | metadatum
  | bytes
  | optional (inner : FieldType)
  | list (item : FieldType)
  | map (key value : FieldType)
  deriving DecidableEq, Repr

/-- The shape of a field type; being optional is a constraint on the column and no shape. -/
def FieldType.shape : FieldType → Shape
  | .text => .text
  | .signed bits => .signed bits
  | .unsigned bits => .unsigned bits
  | .floating bits => .floating bits
  | .boolean => .boolean
  | .timestamp => .timestamp
  -- What a document or a metadata value holds is not known before it is there.
  | .document => .anything
  | .metadatum => .anything
  | .bytes => .bytes
  -- That a field may be null is no part of its shape.
  | .optional inner => inner.shape
  | .list item => .sequence item.shape
  | .map key value => .mapping key.shape value.shape

end RecordTables
