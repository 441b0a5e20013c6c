import RecordTables.Value.Signed
import RecordTables.Json.Basic
import RecordTables.Time.Timestamp

/-! Column values, their kinds, their equality and their order. -/

namespace RecordTables

/-- The value of one column. -/
inductive Value where
  | null
  | text (value : String)
  | integer (value : Signed 64)
  | real (value : Double)
  | boolean (value : Bool)
  | timestamp (value : Timestamp)
  | document (value : Json)
  | textList (items : List String)

namespace Value

/-- The kinds of values. -/
inductive Kind where
  | null
  | text
  | integer
  | real
  | boolean
  | timestamp
  | document
  | textList
  deriving DecidableEq, Repr

/-- The kind of a value. -/
def kind : Value → Kind
  | .null => .null
  | .text _ => .text
  | .integer _ => .integer
  | .real _ => .real
  | .boolean _ => .boolean
  | .timestamp _ => .timestamp
  | .document _ => .document
  | .textList _ => .textList

/-- The name of a kind in messages. -/
def Kind.name : Kind → String
  | .null => "null"
  | .text => "text"
  | .integer => "integer"
  | .real => "real"
  | .boolean => "boolean"
  | .timestamp => "timestamp"
  | .document => "json"
  | .textList => "text array"

/-- Whether the value is null. -/
def isNull : Value → Bool
  | .null => true
  | _ => false

/-- Equality of values; null equals null, and no two kinds equal each other. -/
def same : Value → Value → Bool
  | .null, .null => true
  | .text left, .text right => left == right
  | .integer left, .integer right => left.value == right.value
  | .real left, .real right => left.same right
  | .boolean left, .boolean right => left == right
  | .timestamp left, .timestamp right => left == right
  | .document left, .document right => left.same right
  | .textList left, .textList right => left == right
  -- Values of two kinds are never equal here, an integer and a real included.
  | _, _ => false

/-- The order of two lists of texts, settled by the first difference. -/
def compareTexts : List String → List String → Ordering
  | [], [] => .eq
  | [], _ :: _ => .lt
  | _ :: _, [] => .gt
  | left :: lefts, right :: rights => (Ord.compare left right).then (compareTexts lefts rights)

/--
The order of two values, absent when a value is null or the kinds do not compare.
An integer meets a real as the nearest real, and documents are only ever equal.
-/
def compare? : Value → Value → Option Ordering
  | .text left, .text right => some (Ord.compare left right)
  | .integer left, .integer right => some (Ord.compare left.value right.value)
  | .real left, .real right => left.compare? right
  -- An integer is taken to the nearest real, and may be equal to it by that.
  | .integer left, .real right => (Floating.ofInt .double left.value).compare? right
  | .real left, .integer right => left.compare? (Floating.ofInt .double right.value)
  | .boolean left, .boolean right => some (Ord.compare left right)
  | .timestamp left, .timestamp right => some (left.compare right)
  | .textList left, .textList right => some (compareTexts left right)
  | .document left, .document right => if left.same right then some .eq else none
  | _, _ => none

end Value

end RecordTables
