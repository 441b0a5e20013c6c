import RecordTables.Request.Basic
import RecordTables.Identifier.Quoted
import RecordTables.Text.Split

/-! Conditions and orders in SQL, with numbered placeholders for the values. -/

namespace RecordTables

namespace Statement

/-- A piece of SQL and the values for its placeholders in order. -/
structure Bound where
  sql : String
  params : List Value

/-- A numbered placeholder. -/
def placeholder (number : Nat) : String := "$" ++ String.ofList (Decimal.natText number)

/-- A clause that asks whether a column is null. -/
def nullClause (column : String) (comparison : Comparison) : String :=
  if comparison = .equal then Identifier.quote column ++ " IS NULL"
  else Identifier.quote column ++ " IS NOT NULL"

/-- A clause that compares a column with a placeholder. -/
def valueClause (column : String) (comparison : Comparison) (number : Nat) : String :=
  Identifier.quote column ++ " " ++ comparison.sql ++ " " ++ placeholder number

/--
The clauses of some filters with their values, and the number of the next placeholder.
The number is given also when a filter is refused, and then counts those before it.
-/
def clauses : List Filter → Nat → Except Failure (List String × List Value) × Nat
  | [], number => (.ok ([], []), number)
  | filter :: rest, number =>
    if filter.ordersNull then (.error filter.nullFailure, number)
    -- A test for null takes up no placeholder.
    else if filter.value.isNull then
      let (result, next) := clauses rest number
      (result.map fun (texts, params) =>
        (nullClause filter.column filter.comparison :: texts, params), next)
    else
      let (result, next) := clauses rest (number + 1)
      (result.map fun (texts, params) =>
        (valueClause filter.column filter.comparison number :: texts, filter.value :: params), next)

/-- The word between two clauses. -/
def conjunction : String := " AND "

/-- The condition that all filters hold, absent for no filter, and the next placeholder's number. -/
def condition (filters : List Filter) (number : Nat) : Except Failure (Option Bound) × Nat :=
  -- Without filters there is no condition, which is not the same as an empty one.
  if filters.isEmpty then (.ok none, number)
  else
    let (result, next) := clauses filters number
    (result.map fun (texts, params) => some ⟨Text.joinWith conjunction texts, params⟩, next)

/-- The order by a column, absent for no column and for an empty name. -/
def order (column : Option String) (descending : Bool) : Option String :=
  (column.filter fun name => name != "").map fun name =>
    Identifier.quote name ++ if descending then " DESC" else " ASC"

end Statement

end RecordTables
