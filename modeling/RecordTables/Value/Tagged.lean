import RecordTables.Value.Basic
import RecordTables.Json.Decoder
import RecordTables.Json.Reader
import RecordTables.Json.Text
import RecordTables.Time.Text

/-! Values in JSON: the kind under one name and the content under another. -/

namespace RecordTables

namespace Value

/-- The name of a kind in JSON. -/
def Kind.tag : Kind → String
  | .null => "null"
  | .text => "text"
  | .integer => "integer"
  | .real => "real"
  | .boolean => "boolean"
  | .timestamp => "timestamp"
  | .document => "json"
  | .textList => "text_array"

/-- The kinds of values, every one once. -/
def Kind.all : List Kind :=
  [.null, .text, .integer, .real, .boolean, .timestamp, .document, .textList]

/-- The kind with a given name in JSON. -/
def Kind.ofTag? (tag : String) : Option Kind := all.find? fun kind => kind.tag = tag

/-- The document of a whole number of 64 bits. -/
def ofSigned (value : Signed 64) : Json :=
  .number (.whole value.value value.lower
    (Int.lt_of_lt_of_le value.upper (by decide)))

/-- The content of a value; null has none. -/
def content? : Value → Option Json
  -- Null is its tag alone.
  | .null => none
  | .text value => some (.string value)
  | .integer value => some (ofSigned value)
  | .real value => some (Json.ofDouble value)
  | .boolean value => some (.boolean value)
  | .timestamp value => some (.string (String.ofList value.text))
  | .document value => some value
  | .textList items => some (.array (items.map .string))

/-- The members that spell a value, the kind first. -/
def toJson (value : Value) : Json :=
  .object (("type", .string value.kind.tag) ::
    match value.content? with
    | none => []
    | some content => [("value", content)])

/-- Reads an instant from a string. -/
def timestamp? (written : Written) : Option Timestamp :=
  written.text?.bind fun text => Timestamp.read? text.toList

/-- Reads the content of a value of a given kind; the content of null is null. -/
def ofContent? : Kind → Written → Option Value
  -- A tag of null may come with null behind it, and with nothing else.
  | .null, .null => some .null
  | .null, _ => none
  | .text, written => written.text?.map .text
  | .integer, written => (written.signed? 64).map .integer
  | .real, written => written.double?.map .real
  | .boolean, written => written.boolean?.map .boolean
  | .timestamp, written => (timestamp? written).map .timestamp
  | .document, written => written.document?.map .document
  | .textList, written => written.texts?.map .textList

/-- Reads the name of a kind; where the fields are not named, only a plain string counts. -/
def tag? (named : Bool) (written : Written) : Option String :=
  if named then written.choice? else written.text?

/-- Reads a value; only the content of null may be left out, and only where the fields are named. -/
def ofWritten? (written : Written) : Option Value := do
  let fields ← written.fields? ["type", "value"]
  match fields.values with
  | [some tag, content] =>
    let kind ← (tag? fields.named tag).bind Kind.ofTag?
    match content with
    | some content => ofContent? kind content
    -- An array has no way to leave its second item out.
    | none => if fields.named && kind == .null then some .null else none
  | _ => none

/-- Reads a value from a JSON text. -/
def read? (text : String) : Option Value := (Json.readWritten? text).bind ofWritten?

end Value

end RecordTables
