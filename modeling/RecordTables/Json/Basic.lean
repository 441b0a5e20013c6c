import RecordTables.Floating.Basic
import RecordTables.Dictionary

/-! JSON documents with whole and floating point numbers kept apart. -/

namespace RecordTables

/-- A number of a document: a whole number of 64 bits with or without a sign, or a finite 64-bit float. -/
inductive JsonNumber where
  | whole (value : Int) (lower : -(2 ^ 63) ≤ value) (upper : value < 2 ^ 64)
  | real (value : Double) (finite : value.isFinite = true)
  deriving DecidableEq

namespace JsonNumber

/-- The whole number as a document number, if it is in range. -/
def ofInt? (value : Int) : Option JsonNumber :=
  if inRange : -(2 ^ 63) ≤ value ∧ value < 2 ^ 64 then some (.whole value inRange.1 inRange.2)
  else none

/-- The finite number as a document number. -/
def ofDouble? (value : Double) : Option JsonNumber :=
  if finite : value.isFinite = true then some (.real value finite) else none

/-- The nearest 64-bit float. -/
def toDouble : JsonNumber → Double
  | .whole value _ _ => Floating.ofInt .double value
  | .real value _ => value

/-- Equality of numbers; a whole number never equals a float. -/
def same : JsonNumber → JsonNumber → Bool
  | .whole left _ _, .whole right _ _ => left == right
  | .real left _, .real right _ => left.same right
  | _, _ => false

end JsonNumber

/-- A JSON document. The members of an object are in ascending order of their names. -/
inductive Json where
  | null
  | boolean (value : Bool)
  | number (value : JsonNumber)
  | string (value : String)
  | array (items : List Json)
  | object (members : List (String × Json))

namespace Json

/-- The document of a floating point number; what is not finite has none and becomes null. -/
def ofDouble (value : Double) : Json :=
  match JsonNumber.ofDouble? value with
  | some held => .number held
  | none => .null

mutual

/-- Equality of documents, number by number and member by member. -/
def same : Json → Json → Bool
  | .null, .null => true
  | .boolean left, .boolean right => left == right
  | .number left, .number right => left.same right
  | .string left, .string right => left == right
  | .array left, .array right => sameItems left right
  | .object left, .object right => sameMembers left right
  | _, _ => false

/-- Equality of two lists of documents. -/
def sameItems : List Json → List Json → Bool
  | [], [] => true
  | left :: lefts, right :: rights => left.same right && sameItems lefts rights
  | _, _ => false

/-- Equality of two lists of members. -/
def sameMembers : List (String × Json) → List (String × Json) → Bool
  | [], [] => true
  | (leftName, left) :: lefts, (rightName, right) :: rights =>
    leftName == rightName && left.same right && sameMembers lefts rights
  | _, _ => false

end

mutual

/-- Whether the members of every object in a document are in ascending order of their names. -/
def Ordered : Json → Prop
  | .array items => OrderedItems items
  | .object members => Ascending members ∧ OrderedMembers members
  | _ => True

/-- Whether every document of a list is ordered. -/
def OrderedItems : List Json → Prop
  | [] => True
  | item :: rest => item.Ordered ∧ OrderedItems rest

/-- Whether the document of every member is ordered. -/
def OrderedMembers : List (String × Json) → Prop
  | [] => True
  | (_, value) :: rest => value.Ordered ∧ OrderedMembers rest

end

end Json

end RecordTables
