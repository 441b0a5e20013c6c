import RecordTables.Request.Comparison
import RecordTables.Value.Tagged
import RecordTables.Failure

/-! Requests for records: filters that must all hold, an order, and a window. -/

namespace RecordTables

/-- One clause on a column. -/
structure Filter where
  column : String
  comparison : Comparison
  value : Value

/-- A request for records; a limit or an offset that is not positive means none. -/
structure Request where
  filters : List Filter
  sortBy : Option String
  descending : Bool
  limit : Signed 64
  offset : Signed 64

namespace Filter

/-- What is said about comparing the order of a value with null. -/
def nullReason (comparison : Comparison) : String :=
  "operator " ++ comparison.sql ++ " cannot compare against NULL"

/-- Whether the clause asks how a value is ordered against null. -/
def ordersNull (filter : Filter) : Bool := filter.value.isNull && filter.comparison.isOrdering

/-- The failure of a clause that asks how a value is ordered against null. -/
def nullFailure (filter : Filter) : Failure :=
  .invalidFilter filter.column (nullReason filter.comparison)

/-- The members that spell a clause. -/
def toJson (filter : Filter) : Json :=
  .object [("field", .string filter.column), ("operator", .string filter.comparison.sql),
    ("value", filter.value.toJson)]

/-- Reads a clause; all of its fields are required. -/
def ofWritten? (written : Written) : Option Filter := do
  let fields ← written.fields? ["field", "operator", "value"]
  match fields.values with
  | [some column, some comparison, some value] =>
    return ⟨← column.text?, ← Comparison.ofWritten? comparison, ← Value.ofWritten? value⟩
  | _ => none

end Filter

namespace Request

/-- The request for every record. -/
def everything : Request := ⟨[], none, false, .zero 64, .zero 64⟩

/-- The column to sort by; an empty name asks for no order. -/
def sortColumn? (request : Request) : Option String :=
  request.sortBy.filter fun column => column != ""

/-- Whether the request asks for every record in no order, all parts being as if left out. -/
def isEverything (request : Request) : Bool :=
  request.filters.isEmpty && request.sortBy.isNone && !request.descending &&
    request.limit.value == 0 && request.offset.value == 0

/-- The members that spell a request; the sort column is left out when there is none. -/
def toJson (request : Request) : Json :=
  .object ([("filters", .array (request.filters.map Filter.toJson))] ++
    (match request.sortBy with
      | none => []
      | some column => [("sortBy", .string column)]) ++
    [("descending", .boolean request.descending), ("limit", Value.ofSigned request.limit),
      ("offset", Value.ofSigned request.offset)])

/-- Reads a sort column, which may be null. -/
def sortBy? : Written → Option (Option String)
  | .null => some none
  | written => written.text?.map some

/-- Reads the sort column, which may be left out where the fields are named. -/
def sortByField? (named : Bool) : Option Written → Option (Option String)
  | none => if named then some none else none
  | some written => sortBy? written

/-- Reads the clauses of a request. -/
def filters? (written : Written) : Option (List Filter) :=
  written.items?.bind fun items => items.mapM Filter.ofWritten?

/-- Reads a request. -/
def ofWritten? (written : Written) : Option Request := do
  let fields ← written.fields? ["filters", "sortBy", "descending", "limit", "offset"]
  match fields.values with
  | [filters, sortBy, descending, limit, offset] =>
    -- A field that is missing has its default; the sort column only where the fields are named.
    return ⟨← Written.orDefault? [] filters? filters, ← sortByField? fields.named sortBy,
      ← Written.orDefault? false Written.boolean? descending,
      ← Written.orDefault? (.zero 64) (Written.signed? 64) limit,
      ← Written.orDefault? (.zero 64) (Written.signed? 64) offset⟩
  | _ => none

/-- Reads a request from a JSON text. -/
def read? (text : String) : Option Request := (Json.readWritten? text).bind ofWritten?

end Request

end RecordTables
