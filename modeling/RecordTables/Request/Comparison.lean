import RecordTables.Text.Blank
import RecordTables.Json.Decoder

/-! The comparisons of a filter and their spellings. -/

namespace RecordTables

/-- A comparison of a column with a value. -/
inductive Comparison where
  | equal
  | unequal
  | greater
  | less
  deriving DecidableEq, Repr

/-- A text names no comparison; it is kept without the blanks around it. -/
structure UnsupportedComparison where
  text : String
  deriving DecidableEq, Repr

/-- What is said about a text that names no comparison. -/
def UnsupportedComparison.message (fault : UnsupportedComparison) : String :=
  "Unsupported operator '" ++ fault.text ++ "'"

namespace Comparison

/-- The comparison in SQL. -/
def sql : Comparison → String
  | .equal => "="
  | .unequal => "!="
  | .greater => ">"
  | .less => "<"

/-- Whether the comparison asks for an order. -/
def isOrdering : Comparison → Bool
  | .greater => true
  | .less => true
  | _ => false

/-- The comparison with a given plain spelling. -/
def ofPlain? (text : String) : Option Comparison :=
  if text = "=" ∨ text = "==" then some .equal
  else if text = "!=" ∨ text = "<>" then some .unequal
  else if text = ">" then some .greater
  else if text = "<" then some .less
  else none

/-- The mathematical sign of being unequal. -/
def unequalSign : String := String.ofList [Char.ofNat 0x2260]

/-- Reads a comparison in any spelling, with blanks around it. -/
def read (text : String) : Except UnsupportedComparison Comparison :=
  let trimmed := String.ofList (Text.trim text.toList)
  match ofPlain? trimmed with
  | some comparison => .ok comparison
  -- The sign of mathematics is not one of the plain spellings.
  | none => if trimmed = unequalSign then .ok .unequal else .error ⟨trimmed⟩

/-- Reads a comparison from JSON, where only the plain spellings count. -/
def ofWritten? (written : Written) : Option Comparison := written.choice?.bind ofPlain?

end Comparison

end RecordTables
