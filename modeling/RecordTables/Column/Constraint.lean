import RecordTables.Text.Blank
import RecordTables.Text.Lowercase
import RecordTables.Text.Split

/-! Column constraints, the tags that spell them and the SQL that declares them. -/

namespace RecordTables

/-- One constraint on a column. -/
inductive Constraint where
  | primaryKey
  | notNull
  | unique
  deriving DecidableEq, Repr

/-- A tag names a constraint that does not exist; the name is kept as it was looked up. -/
structure UnknownConstraint where
  name : String
  deriving DecidableEq, Repr

/-- What is said about a constraint that does not exist. -/
def UnknownConstraint.message (fault : UnknownConstraint) : String :=
  "Unknown constraint '" ++ fault.name ++ "'"

/-- Reads a constraint's name, whatever its case and the blanks around it. -/
def Constraint.read (name : List Char) : Except UnknownConstraint Constraint :=
  let looked := String.ofList (Text.lower (Text.trim name))
  if looked = "primarykey" then .ok .primaryKey
  else if looked = "notnull" then .ok .notNull
  else if looked = "unique" then .ok .unique
  -- The fault holds the name as it was looked for, without blanks and capitals.
  else .error ⟨looked⟩

/-- The constraints of a column. -/
structure Constraints where
  primaryKey : Bool := false
  notNull : Bool := false
  unique : Bool := false
  deriving DecidableEq, Repr

namespace Constraints

/-- No constraint at all. -/
def none : Constraints := {}

/-- The constraints with one more. -/
def insert (constraints : Constraints) : Constraint → Constraints
  | .primaryKey => { constraints with primaryKey := true }
  | .notNull => { constraints with notNull := true }
  | .unique => { constraints with unique := true }

/-- Adds constraints one by one, up to the first part of a tag that names none. -/
def readParts (constraints : Constraints) : List (List Char) → Except UnknownConstraint Constraints
  | [] => .ok constraints
  | part :: rest =>
    match Constraint.read part with
    -- The parts behind the first unknown name are not looked at.
    | .error fault => .error fault
    | .ok constraint => readParts (constraints.insert constraint) rest

/-- Reads a tag of names between commas; blank parts are passed over. -/
def read (tag : String) : Except UnknownConstraint Constraints :=
  readParts none ((Text.splitAt ',' tag.toList).filter fun part => !(Text.trim part).isEmpty)

/-- The SQL that follows a column's type; a primary key says the other two already. -/
def sql (constraints : Constraints) : String :=
  if constraints.primaryKey then " PRIMARY KEY"
  else (if constraints.notNull then " NOT NULL" else "") ++
    (if constraints.unique then " UNIQUE" else "")

/-- Whether a value is required. -/
def requiresValue (constraints : Constraints) : Bool := constraints.primaryKey || constraints.notNull

/-- Whether two rows may not hold the same value. -/
def requiresDistinct (constraints : Constraints) : Bool := constraints.primaryKey || constraints.unique

end Constraints

end RecordTables
