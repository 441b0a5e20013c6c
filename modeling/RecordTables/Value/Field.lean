import RecordTables.Value.Basic
import RecordTables.Metadata.Basic

/-! What the fields of a record hold, and how it becomes a column value and comes back. -/

namespace RecordTables

/-- The widths of integer fields. -/
inductive Width where
  | bits8
  | bits16
  | bits32
  | bits64
  deriving DecidableEq, Repr

namespace Width

/-- The number of bits. -/
def bits : Width → Nat
  | .bits8 => 8
  | .bits16 => 16
  | .bits32 => 32
  | .bits64 => 64

/-- No width is greater than 64 bits. -/
theorem bits_le (width : Width) : width.bits ≤ 64 := by cases width <;> decide

/-- The name of the integers of a width. -/
def name : Width → String
  | .bits8 => "i8"
  | .bits16 => "i16"
  | .bits32 => "i32"
  | .bits64 => "i64"

end Width

/-- The kinds of fields. -/
inductive FieldKind where
  | text
  | signed (width : Width)
  | single
  | double
  | boolean
  | timestamp
  | document
  | metadata
  | textList
  | anyValue
  | optional (inner : FieldKind)
  deriving DecidableEq, Repr

namespace FieldKind

/-- What a field of a kind holds. -/
abbrev Carrier : FieldKind → Type
  | .text => String
  | .signed width => Signed width.bits
  | .single => Single
  | .double => Double
  | .boolean => Bool
  | .timestamp => Timestamp
  | .document => Json
  | .metadata => Metadata
  | .textList => List String
  | .anyValue => Value
  | .optional inner => Option inner.Carrier

/-- Why a column value does not fit a field. -/
inductive Fault where
  | mismatch (expected found : Value.Kind)
  | outOfRange (value : Int) (width : Width)
  | metadata (fault : MetadataFault)

/-- What is said about a column value that does not fit a field. -/
def Fault.message : Fault → String
  | .mismatch expected found => "expected " ++ expected.name ++ ", got " ++ found.name
  | .outOfRange value width =>
    String.ofList (Decimal.intText value) ++ " does not fit in " ++ width.name
  | .metadata fault => fault.message

/-- The column value of what a field holds; an absent value becomes null. -/
def encode : (kind : FieldKind) → kind.Carrier → Value
  | .text, value => .text value
  | .signed width, value => .integer (value.widen width.bits_le)
  | .single, value => .real (Double.ofSingle value)
  | .double, value => .real value
  | .boolean, value => .boolean value
  | .timestamp, value => .timestamp value
  | .document, value => .document value
  | .metadata, value => .document (Metadata.toJson value)
  | .textList, items => .textList items
  | .anyValue, value => value
  -- Nothing and null are written alike.
  | .optional _, none => .null
  | .optional inner, some value => inner.encode value

/-- The 64-bit float of a real or an integer. -/
def decodeDouble : Value → Except Fault Double
  | .real value => .ok value
  | .integer value => .ok (Floating.ofInt .double value.value)
  | other => .error (.mismatch .real other.kind)

/-- The integer of a given width. -/
def decodeSigned (width : Width) : Value → Except Fault (Signed width.bits)
  | .integer value =>
    match Signed.ofInt? width.bits value.value with
    | some narrow => .ok narrow
    -- A number that does not fit is refused, and never cut to the width.
    | none => .error (.outOfRange value.value width)
  | other => .error (.mismatch .integer other.kind)

/-- The text. -/
def decodeText : Value → Except Fault String
  | .text value => .ok value
  | other => .error (.mismatch .text other.kind)

/-- The truth value. -/
def decodeBoolean : Value → Except Fault Bool
  | .boolean value => .ok value
  | other => .error (.mismatch .boolean other.kind)

/-- The instant. -/
def decodeTimestamp : Value → Except Fault Timestamp
  | .timestamp value => .ok value
  | other => .error (.mismatch .timestamp other.kind)

/-- The document; the null value reads as the null document. -/
def decodeDocument : Value → Except Fault Json
  | .document value => .ok value
  | .null => .ok .null
  | other => .error (.mismatch .document other.kind)

/-- The metadata; the null value reads as no entries. -/
def decodeMetadata : Value → Except Fault Metadata
  | .document value => (Metadata.ofJson value).mapError .metadata
  | .null => .ok []
  | other => .error (.mismatch .document other.kind)

/-- The list of texts; the null value reads as an empty list. -/
def decodeTextList : Value → Except Fault (List String)
  | .textList items => .ok items
  | .null => .ok []
  | other => .error (.mismatch .textList other.kind)

/-- What a field holds for a column value; in an optional field null is the absent value. -/
def decode : (kind : FieldKind) → Value → Except Fault kind.Carrier
  | .text, value => decodeText value
  | .signed width, value => decodeSigned width value
  -- A double is narrowed without a check, to the nearest single or to infinity.
  | .single, value => (decodeDouble value).map Double.toSingle
  | .double, value => decodeDouble value
  | .boolean, value => decodeBoolean value
  | .timestamp, value => decodeTimestamp value
  | .document, value => decodeDocument value
  | .metadata, value => decodeMetadata value
  | .textList, value => decodeTextList value
  | .anyValue, value => .ok value
  | .optional inner, value =>
    -- Only null is nothing, whatever the field is that may be missing.
    match value with
    | .null => .ok none
    | present => (inner.decode present).map some

end FieldKind

end RecordTables
