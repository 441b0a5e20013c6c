import RecordTables.Json.Written
import RecordTables.Value.Signed

/-! Reading typed values out of JSON as written. -/

namespace RecordTables

namespace Written

/-- A string. -/
def text? : Written → Option String
  | .string text => text
  | _ => none

/-- A truth value. -/
def boolean? : Written → Option Bool
  | .boolean value => some value
  | _ => none

/-- A whole number of a given width; a numeral with a point or a power of ten is none. -/
def signed? (bits : Nat) : Written → Option (Signed bits)
  | .number (some (.whole value _ _)) => Signed.ofInt? bits value
  | _ => none

/-- A number as a float. -/
def double? : Written → Option Double
  | .number value => value.map JsonNumber.toDouble
  | _ => none

/-- The items of an array. -/
def items? : Written → Option (List Written)
  | .array items => some items
  | _ => none

/-- A list of strings. -/
def texts? (written : Written) : Option (List String) := written.items?.bind (·.mapM text?)

/-- One name out of several: a string, or an object with the name as its only member and null in it. -/
def choice? : Written → Option String
  | .string text => text
  | .object [(name, .null)] => name
  | _ => none

/-- The value under a name, if there is one; a name that is given twice is refused. -/
def field? (name : String) (members : List (String × Written)) : Option (Option Written) :=
  match members.filter fun member => member.1 == name with
  | [] => some none
  | [member] => some (some member.2)
  -- A field that comes twice makes the object unreadable.
  | _ => none

/-- The fields of a structure in order, each present or not. -/
structure Fields where
  named : Bool
  values : List (Option Written)

/-- A structure: an object with its fields by name, or an array with its first fields in order. -/
def fields? (names : List String) : Written → Option Fields
  | .object members => do
    -- A name that is not a text makes the object unreadable, whether or not it is asked for.
    let named ← members.mapM fun member => member.1.map fun name => (name, member.2)
    let values ← names.mapM fun name => field? name named
    return ⟨true, values⟩
  | .array items =>
    -- Fields that are missing at the end are left to their defaults.
    if items.length ≤ names.length then
      some ⟨false, items.map some ++ List.replicate (names.length - items.length) none⟩
    else none
  | _ => none

/-- Reads a field that has a value of its own when it is not present. -/
def orDefault? {α : Type} (default : α) (read? : Written → Option α) : Option Written → Option α
  | none => some default
  | some written => read? written

end Written

end RecordTables
