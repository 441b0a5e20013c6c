import RecordTables.Column.Layout
import RecordTables.Metadata.Reader
import RecordTables.Record
import RecordTables.Value.Tagged

/-! The fields that every entity has: an identity, a time of creation, metadata and tags. -/

namespace RecordTables

/-- The fields that every entity has. -/
structure BaseFields where
  id : String
  createdAt : Timestamp
  metadata : Metadata
  tags : List String

namespace BaseFields

/-- The layout of the base fields; the identity is the primary key. -/
def layout : Layout :=
  [.field ((Field.declare "id" .text).withTag "id" |>.withConstraint .primaryKey),
    .field ((Field.declare "created_at" .timestamp).withTag "created_at"),
    .field ((Field.declare "metadata" (.mapping .text .anything)).withTag "metadata"),
    .field ((Field.declare "tags" (.sequence .text)).withTag "tags")]

/-- Writes the base fields into a record. -/
def write (base : BaseFields) (record : Record) : Record :=
  (((record.put "id" .text base.id).put "created_at" .timestamp base.createdAt).put
    "metadata" .metadata base.metadata).put "tags" .textList base.tags

/-- Takes the base fields out of a record, up to the first that is missing or does not fit. -/
def take (record : Record) : Except Failure BaseFields × Record :=
  -- The fields are taken in the order of their declaration, and the first failure ends it.
  match record.take "id" .text with
  | (.error failure, record) => (.error failure, record)
  | (.ok id, record) =>
    match record.take "created_at" .timestamp with
    | (.error failure, record) => (.error failure, record)
    | (.ok createdAt, record) =>
      match record.take "metadata" .metadata with
      | (.error failure, record) => (.error failure, record)
      | (.ok metadata, record) =>
        match record.take "tags" .textList with
        | (.error failure, record) => (.error failure, record)
        | (.ok tags, record) => (.ok ⟨id, createdAt, metadata, tags⟩, record)

/-- The members that spell the base fields. -/
def toJson (base : BaseFields) : Json :=
  .object [("id", .string base.id), ("created_at", .string (String.ofList base.createdAt.text)),
    ("metadata", Metadata.toJson base.metadata), ("tags", .array (base.tags.map .string))]

/-- Reads the base fields; metadata and tags may be left out. -/
def ofWritten? (written : Written) : Option BaseFields := do
  let fields ← written.fields? ["id", "created_at", "metadata", "tags"]
  match fields.values with
  | [some id, some createdAt, metadata, tags] =>
    -- Metadata and tags may be left out, and are empty then.
    return ⟨← id.text?, ← Value.timestamp? createdAt,
      ← Written.orDefault? [] Metadata.ofWritten? metadata,
      ← Written.orDefault? [] Written.texts? tags⟩
  | _ => none

/-- Reads the base fields from a JSON text. -/
def read? (text : String) : Option BaseFields := (Json.readWritten? text).bind ofWritten?

end BaseFields

end RecordTables
