import RecordTables.Statement.ColumnText
import RecordTables.Statement.Data
import RecordTables.Table

/-! What a statement that selects records says, how it is written, and how it is read back from its text. -/

namespace RecordTables

namespace Statement

/-- A clause of a condition: a test for null, or a comparison with a numbered placeholder. -/
inductive ClauseText where
  | null (column : String) (negated : Bool)
  | compare (column : String) (comparison : Comparison) (number : Nat)
  deriving DecidableEq, Repr

/-- What a statement that selects records says. -/
structure SelectText where
  columns : List String
  schema : Option String
  table : String
  clauses : List ClauseText
  order : Option (String × Bool)
  limit : Option Nat
  offset : Option Nat
  deriving DecidableEq, Repr

/-- The text of a clause. -/
def ClauseText.sql : ClauseText → String
  | .null column negated =>
    Identifier.quote column ++ if negated then " IS NOT NULL" else " IS NULL"
  | .compare column comparison number => valueClause column comparison number

/-- The clauses of a condition; without clauses there is no condition. -/
def conditionClauses? (clauses : List ClauseText) : Option (List ClauseText) :=
  if clauses.isEmpty then none else some clauses

/-- The text of clauses that must all hold. -/
def conditionText (clauses : List ClauseText) : String :=
  Text.joinWith conjunction (clauses.map ClauseText.sql)

/-- The text of an order by a column. -/
def orderText (order : String × Bool) : String :=
  Identifier.quote order.1 ++ if order.2 then " DESC" else " ASC"

/-- The text of a number. -/
def numberText (number : Nat) : String := String.ofList (Decimal.natText number)

/-- The list of some columns is the list of their names. -/
theorem columnList_eq (columns : List Column) :
    columnList columns = Text.joinWith ", " ((columns.map (·.name)).map Identifier.quote) := by
  simp [columnList, Function.comp_def]

/-- The text of a statement that selects records. -/
def SelectText.sql (text : SelectText) : String :=
  "SELECT " ++ Text.joinWith ", " (text.columns.map Identifier.quote) ++ " FROM " ++
    Table.qualify text.schema text.table ++
    optionalPart " WHERE " ((conditionClauses? text.clauses).map conditionText) ++
    optionalPart " ORDER BY " (text.order.map orderText) ++
    optionalPart " LIMIT " (text.limit.map numberText) ++
    optionalPart " OFFSET " (text.offset.map numberText)

/-- The clauses of filters, with placeholders numbered from a number on. -/
def clauseTexts : List Filter → Nat → List ClauseText
  | [], _ => []
  | filter :: rest, number =>
    -- A test for null takes no value and no number.
    if filter.value.isNull then
      .null filter.column (filter.comparison != .equal) :: clauseTexts rest number
    else .compare filter.column filter.comparison number :: clauseTexts rest (number + 1)

/-- The number of a window that restricts anything. -/
def windowSize? (count : Signed 64) : Option Nat :=
  if 0 < count.value then some count.value.toNat else none

/-- What the statement that selects the records of a request is to say. -/
def selectText (table : Table) (columns : List Column) (request : Request) : SelectText :=
  ⟨columns.map (·.name), table.schema, table.name, clauseTexts request.filters 1,
    request.sortColumn?.map fun column => (column, request.descending),
    windowSize? request.limit, windowSize? request.offset⟩

/-- Reads the digits of a number. -/
def readNumber? (text : List Char) : Option (Nat × List Char) :=
  match text.takeWhile Char.isDigit with
  | [] => none
  | digits => some (Nat.ofDigitChars 10 digits 0, text.dropWhile Char.isDigit)

/-- Reads one item after another for as long as the separator follows. -/
def readSeparated? {α : Type} (item : List Char → Option (α × List Char)) (separator : String)
    (text : List Char) : Option (List α × List Char) :=
  match item text with
  | none => none
  | some (first, rest) =>
    match after? separator rest with
    | none => some ([first], rest)
    | some next =>
      -- A separator that is not empty makes the text shorter, on which the recursion rests.
      if next.length < text.length then
        (readSeparated? item separator next).map fun (others, last) => (first :: others, last)
      else none
termination_by text.length

/-- Reads a part that is there if its keyword is. -/
def readOptional? {α : Type} (keyword : String) (item : List Char → Option (α × List Char))
    (text : List Char) : Option (Option α × List Char) :=
  match after? keyword text with
  | none => some (none, text)
  | some rest => (item rest).map fun (found, last) => (some found, last)

/-- Reads the quoted names of columns; there may be none. -/
def readColumns? (text : List Char) : Option (List String × List Char) :=
  if text.head? = some '"' then readSeparated? Identifier.unquote? ", " text else some ([], text)

/-- The comparisons that a clause may make. -/
def comparisons : List Comparison := [.equal, .unequal, .greater, .less]

/-- Reads a comparison and its placeholder behind the name of a column. -/
def readComparison? (text : List Char) : Option (Comparison × Nat × List Char) :=
  comparisons.findSome? fun comparison =>
    (after? (" " ++ comparison.sql ++ " $") text).bind fun digits =>
      (readNumber? digits).map fun (number, rest) => (comparison, number, rest)

/-- Reads a clause. -/
def readClause? (text : List Char) : Option (ClauseText × List Char) :=
  match Identifier.unquote? text with
  | none => none
  | some (column, text) =>
    -- The words for null are tried before the signs of comparisons.
    match after? " IS NULL" text with
    | some rest => some (.null column false, rest)
    | none =>
      match after? " IS NOT NULL" text with
      | some rest => some (.null column true, rest)
      | none =>
        (readComparison? text).map fun (comparison, number, rest) =>
          (.compare column comparison number, rest)

/-- Reads the column and the direction of an order. -/
def readOrder? (text : List Char) : Option ((String × Bool) × List Char) :=
  match Identifier.unquote? text with
  | none => none
  | some (column, text) =>
    match after? " DESC" text with
    | some rest => some ((column, true), rest)
    | none => (after? " ASC" text).map fun rest => ((column, false), rest)

/-- Reads a statement that selects records. -/
def readSelect? (text : String) : Option SelectText := do
  let text ← after? "SELECT " text.toList
  let (columns, text) ← readColumns? text
  let text ← after? " FROM " text
  let (schema, table, text) ← readReference? text
  -- The parts behind the table are all optional, and stand in this order.
  let (clauses, text) ← readOptional? " WHERE " (readSeparated? readClause? conjunction) text
  let (order, text) ← readOptional? " ORDER BY " readOrder? text
  let (limit, text) ← readOptional? " LIMIT " readNumber? text
  let (offset, text) ← readOptional? " OFFSET " readNumber? text
  -- Nothing may be left over.
  if text.isEmpty then return ⟨columns, schema, table, clauses.getD [], order, limit, offset⟩
  else none

end Statement

end RecordTables
