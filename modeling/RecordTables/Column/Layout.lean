import RecordTables.Column.Constraint
import RecordTables.Column.StorageType
import RecordTables.Failure
import RecordTables.Json.Text

/-! Layouts of records: named fields, some of them in groups, and the columns they flatten into. -/

namespace RecordTables

/-- A field of a record and the column it asks for. -/
structure Field where
  name : String
  tag : Option String
  shape : Shape
  constraints : Constraints
  deriving DecidableEq, Repr

namespace Field

/-- A field without a column tag and without constraints. -/
def declare (name : String) (shape : Shape) : Field := ⟨name, none, shape, .none⟩

/-- The field with a column tag. -/
def withTag (tag : String) (field : Field) : Field := { field with tag := some tag }

/-- The field with one more constraint. -/
def withConstraint (constraint : Constraint) (field : Field) : Field :=
  { field with constraints := field.constraints.insert constraint }

end Field

/-- An entry of a layout: a field, or a group whose fields count as if they stood in its place. -/
inductive LayoutEntry where
  | field (field : Field)
  | group (name : String) (entries : List LayoutEntry)

/-- The fields of a record in the order of their declaration. -/
abbrev Layout := List LayoutEntry

namespace LayoutEntry

/-- Changes the field of an entry; a group stays as it is. -/
def onField (change : Field → Field) : LayoutEntry → LayoutEntry
  | .field leaf => .field (change leaf)
  | .group name entries => .group name entries

end LayoutEntry

mutual

/-- The fields of an entry. -/
def LayoutEntry.leaves : LayoutEntry → List Field
  | .field field => [field]
  | .group _ entries => Layout.leaves entries

/-- The fields of a layout, those of a group in its place. -/
def Layout.leaves : List LayoutEntry → List Field
  | [] => []
  | entry :: rest => entry.leaves ++ Layout.leaves rest

end

/-- A column of a table and the field it stores. -/
structure Column where
  field : String
  name : String
  shape : Shape
  constraints : Constraints
  deriving DecidableEq, Repr

namespace Column

/-- The column of a field, which needs a tag that is a valid name. -/
def ofField (field : Field) : Except Failure Column :=
  match field.tag with
  | none => .error (.missingTag field.name)
  | some tag =>
    -- No column name is reserved here.
    match Identifier.validate tag [] with
    | .error fault => .error (.ofIdentifier fault)
    | .ok () => .ok ⟨field.name, tag, field.shape, field.constraints⟩

/-- The first name that an earlier column has already. -/
def firstRepeated? (seen : List String) : List Column → Option String
  | [] => none
  | column :: rest =>
    -- The first name that comes again is the one that is reported.
    if seen.contains column.name then some column.name
    else firstRepeated? (column.name :: seen) rest

/-- The type of the column in the table. -/
def storage (column : Column) : Except Failure StorageType :=
  match StorageType.ofShape? column.shape with
  | some type => .ok type
  | none => .error (.unsupportedType column.field column.shape.describe)

/-- The column that holds the primary key, or the name it has when no column is declared to. -/
def keyName (columns : List Column) : String :=
  match columns.find? fun column => column.constraints.primaryKey with
  | some column => column.name
  | none => "id"

/-- The types of all columns, up to the first that has none. -/
def storages (columns : List Column) : Except Failure (List StorageType) := columns.mapM storage

/-- The document of some constraints. -/
def constraintsJson (constraints : Constraints) : Json :=
  .object [("primary_key", .boolean constraints.primaryKey),
    ("not_null", .boolean constraints.notNull), ("unique", .boolean constraints.unique)]

/-- The document that sums up a column. -/
def summary (column : Column) (type : StorageType) : Json :=
  .object [("name", .string column.name), ("column_type", .string type.jsonName),
    ("constraints", constraintsJson column.constraints)]

/-- The document that sums up some columns. -/
def summaries (columns : List Column) : Except Failure Json :=
  (storages columns).map fun types => .array (List.zipWith summary columns types)

end Column

/-- The columns of a layout: every field has a valid tag, and no two have the same. -/
def Layout.columns (layout : Layout) : Except Failure (List Column) :=
  match (Layout.leaves layout).mapM Column.ofField with
  | .error failure => .error failure
  | .ok columns =>
    -- Repeated names are looked for only once every field has a column.
    match Column.firstRepeated? [] columns with
    | some name => .error (.duplicateColumn name)
    | none => .ok columns

end RecordTables
