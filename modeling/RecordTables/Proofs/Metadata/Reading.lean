import RecordTables.Metadata.Reader
import RecordTables.Json.Decoder
import RecordTables.Proofs.Json.Document

/-!
Metadata read from JSON as written. It is what the document of the text stands for, as long as no object
gives a name twice: of members with one name a document keeps the last, but all of them are read here.
-/

namespace RecordTables

namespace Metadatum

/-- The metadata value of a document, if it has one. -/
def ofJson? (document : Json) : Option Metadatum := (ofJson document).toOption

/-- The entries of members are read one by one. -/
theorem toOption_ofMembers : ∀ members : List (String × Json),
    (ofMembers members).toOption = readEntries? ofJson? members
  | [] => rfl
  | (name, document) :: rest => by
    unfold ofMembers readEntries?
    rw [← toOption_ofMembers rest]
    unfold ofJson?
    cases ofJson document with
    | error fault => rfl
    | ok value => cases ofMembers rest <;> rfl

/-- The group of an object is that of the entries of its members. -/
theorem ofJson?_object (members : List (String × Json)) :
    ofJson? (.object members) = (readEntries? ofJson? members).map .group := by
  -- The members are read with the failures forgotten, one by one or at the end.
  rw [← toOption_ofMembers]
  unfold ofJson? ofJson
  cases ofMembers members <;> rfl

mutual

/-- The metadata value written in a JSON text is that of the document of the text. -/
theorem ofWritten?_eq : ∀ {written : Written}, written.Distinct →
    ofWritten? written = written.document?.bind ofJson?
  | .null, _ => rfl
  | .boolean _, _ => rfl
  -- A number that is too large, or half of a surrogate pair, is neither a document nor metadata.
  | .number value, _ => by cases value <;> rfl
  | .string content, _ => by cases content <;> rfl
  | .array items, _ => by
    -- An array is no metadata, whatever is in it.
    unfold Written.document?
    cases Written.documents? items <;> rfl
  | .object members, distinct => by
    unfold ofWritten? Written.document?
    rw [entriesOfWritten?_eq distinct.2]
    cases read : Written.members? members with
    | none => rfl
    | some entries =>
      -- To read the entries and sort what is read comes to the same as to sort them first.
      show (readEntries? ofJson? entries).map _ = ofJson? (.object (sortEntries entries))
      rw [ofJson?_object, readEntries?_sortEntries ofJson? (Written.nodup_members? read distinct.1),
        Option.map_map]
      rfl

/-- The entries written as members are those of the documents of the members. -/
theorem entriesOfWritten?_eq : ∀ {members : List (WrittenText × Written)},
    Written.DistinctMembers members →
    entriesOfWritten? members = (Written.members? members).bind (readEntries? ofJson?)
  | [], _ => rfl
  | (name, value) :: rest, distinct => by
    unfold entriesOfWritten? Written.members?
    rw [ofWritten?_eq distinct.1, entriesOfWritten?_eq distinct.2]
    -- A member without a name, or without a document, leaves nothing to read.
    cases name with
    | none => rfl
    | some name =>
      cases value.document? with
      | none => rfl
      | some document =>
        rw [Option.bind_some]
        cases Written.members? rest with
        | none => cases ofJson? document <;> rfl
        | some entries =>
          rw [Option.bind_some]
          show _ = readEntries? ofJson? ((name, document) :: entries)
          rw [readEntries?]
          cases ofJson? document <;> cases readEntries? ofJson? entries <;> rfl

end

/-- A value written as null. -/
def null? : Written → Option Metadatum
  | .null => some .null
  | _ => none

/-- The readers of the kinds of metadata values, in the order in which the kinds are declared. -/
def kinds : List (Written → Option Metadatum) :=
  [null?,
    fun written => written.boolean?.map .boolean,
    fun written => written.double?.map .number,
    fun written => written.text?.map .text,
    fun written => (Metadata.ofWritten? written).map .group]

/-- A metadata value is read as the first kind that it can be read as. -/
theorem ofWritten?_kinds (written : Written) :
    ofWritten? written = kinds.findSome? fun read? => read? written := by
  -- No two of the kinds are written in the same way, so each value comes to its own reader.
  cases written with
  | number value => cases value <;> rfl
  | string content => cases content <;> rfl
  | object members =>
    -- The reader of groups is the last one, and all before it refuse an object.
    have grouped : (Metadata.ofWritten? (.object members)).map group =
        ofWritten? (.object members) := Option.map_map ..
    simp only [kinds, List.findSome?_cons, List.findSome?_nil, grouped]
    cases ofWritten? (.object members) <;> rfl
  | _ => rfl

end Metadatum

namespace Metadata

/-- The metadata of a document, if it has any. -/
def ofJson? (document : Json) : Option Metadata := (ofJson document).toOption

/-- The metadata written in a JSON text is that of the document of the text, unless that is null. -/
theorem ofWritten?_eq {written : Written} (distinct : written.Distinct) (present : written ≠ .null) :
    ofWritten? written = written.document?.bind ofJson? := by
  -- Only an object is metadata in either way.
  cases written with
  | null => exact absurd rfl present
  | boolean value => rfl
  | number value => cases value <;> rfl
  | string content => cases content <;> rfl
  | array items =>
    unfold Written.document?
    cases Written.documents? items <;> rfl
  | object members =>
    show (Metadatum.entriesOfWritten? members).map sortEntries = _
    unfold Written.document?
    -- One way sorts what was read, and the other reads what was sorted.
    rw [Metadatum.entriesOfWritten?_eq distinct.2]
    cases read : Written.members? members with
    | none => rfl
    | some entries =>
      show (readEntries? Metadatum.ofJson? entries).map sortEntries =
        (Metadatum.ofMembers (sortEntries entries)).toOption
      rw [Metadatum.toOption_ofMembers,
        readEntries?_sortEntries _ (Written.nodup_members? read distinct.1)]

end Metadata

end RecordTables
