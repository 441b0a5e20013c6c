import RecordTables.Proofs.BaseFields
import RecordTables.Proofs.Record

/-!
Metadata that is stored as a document and read again. A document holds everything but the numbers that are
not finite, and metadata holds everything but arrays and the difference between whole numbers and floats;
what both hold survives in either direction, at every depth.
-/

namespace RecordTables

namespace Json

/-- A document occurs in another one: as all of it, in an item of an array, or in a member of an object. -/
inductive Contains (inner : Json) : Json → Prop
  | self : Contains inner inner
  | item {items : List Json} {item : Json} (member : item ∈ items) (within : Contains inner item) :
    Contains inner (.array items)
  | member {members : List (String × Json)} {entry : String × Json} (member : entry ∈ members)
    (within : Contains inner entry.2) : Contains inner (.object members)

/-- Whether no array occurs in a document, at any depth. -/
def Arrayless (document : Json) : Prop := ∀ items, ¬ Contains (.array items) document

/-- No array occurs in an object exactly if none occurs in the document of any member. -/
theorem arrayless_object {members : List (String × Json)} :
    Arrayless (.object members) ↔ ∀ entry ∈ members, entry.2.Arrayless := by
  -- An array occurs in an object only by occurring in the document of a member.
  constructor
  · exact fun arrayless entry member items within => arrayless items (.member member within)
  · rintro arrayless items (_ | _ | ⟨member, within⟩)
    exact arrayless _ member items within

mutual

/-- The document with the nearest float in place of every whole number. -/
def floated : Json → Json
  | .number value => .number (.real value.toDouble value.isFinite_toDouble)
  | .array items => .array (floatedItems items)
  | .object members => .object (floatedMembers members)
  | .null => .null
  | .boolean value => .boolean value
  | .string value => .string value

/-- The documents with the nearest float in place of every whole number. -/
def floatedItems : List Json → List Json
  | [] => []
  | item :: rest => item.floated :: floatedItems rest

/-- The members with the nearest float in place of every whole number. -/
def floatedMembers : List (String × Json) → List (String × Json)
  | [] => []
  | (name, value) :: rest => (name, value.floated) :: floatedMembers rest

end

end Json

namespace Metadatum

mutual

/-- The metadata value with null in place of every number that is not finite. -/
def settled : Metadatum → Metadatum
  | .number value => if value.isFinite then .number value else .null
  | .group entries => .group (settledEntries entries)
  | .null => .null
  | .boolean value => .boolean value
  | .text value => .text value

/-- The entries with null in place of every number that is not finite. -/
def settledEntries : List (String × Metadatum) → List (String × Metadatum)
  | [] => []
  | (name, value) :: rest => (name, value.settled) :: settledEntries rest

end

mutual

/-- A metadata value is read from its document with null for the numbers that are not finite. -/
theorem ofJson_toJson : ∀ metadatum : Metadatum, ofJson metadatum.toJson = .ok metadatum.settled
  | .null => rfl
  | .boolean _ => rfl
  | .number value => by
    by_cases finite : value.isFinite = true
    · rw [toJson, Json.ofDouble_of_finite finite, settled, if_pos finite]
      rfl
    · -- Documents have no such number, and null is written in its place.
      have nothing : Json.ofDouble value = .null := by
        simp only [Json.ofDouble, JsonNumber.ofDouble?, finite, Bool.false_eq_true, dite_false]
      rw [toJson, nothing, settled, if_neg finite]
      rfl
  | .text _ => rfl
  | .group entries => by
    rw [toJson, ofJson, ofMembers_membersToJson entries, settled]
    rfl

/-- Entries are read from the members that spell them with null for the numbers that are not finite. -/
theorem ofMembers_membersToJson : ∀ entries : List (String × Metadatum),
    ofMembers (membersToJson entries) = .ok (settledEntries entries)
  | [] => rfl
  | (name, value) :: rest => by
    rw [membersToJson, ofMembers, ofJson_toJson value, ofMembers_membersToJson rest, settledEntries]
    rfl

end

mutual

/-- A metadata value without numbers that are not finite stays as it is. -/
theorem settled_of_finite : ∀ {metadatum : Metadatum}, metadatum.Finite → metadatum.settled = metadatum
  | .null, _ => rfl
  | .boolean _, _ => rfl
  | .number _, finite => if_pos finite
  | .text _, _ => rfl
  | .group entries, finite => by rw [settled, settledEntries_of_finite finite]

/-- Entries without numbers that are not finite stay as they are. -/
theorem settledEntries_of_finite : ∀ {entries : List (String × Metadatum)}, FiniteEntries entries →
    settledEntries entries = entries
  | [], _ => rfl
  | (name, value) :: rest, finite => by
    rw [settledEntries, settled_of_finite finite.1, settledEntries_of_finite finite.2]

end

mutual

/-- A document without arrays becomes a metadata value, whose document has floats for whole numbers. -/
theorem ofJson_of_arrayless : ∀ {document : Json}, document.Arrayless →
    ∃ metadatum, ofJson document = .ok metadatum ∧ metadatum.toJson = document.floated ∧
      metadatum.Finite
  | .null, _ => ⟨.null, rfl, rfl, trivial⟩
  | .boolean value, _ => ⟨.boolean value, rfl, rfl, trivial⟩
  | .number value, _ =>
    ⟨.number value.toDouble, rfl, Json.ofDouble_of_finite value.isFinite_toDouble,
      value.isFinite_toDouble⟩
  | .string value, _ => ⟨.text value, rfl, rfl, trivial⟩
  -- An array is one that occurs in itself.
  | .array items, arrayless => absurd .self (arrayless items)
  | .object members, arrayless => by
    obtain ⟨entries, read, spelled, finite⟩ := ofMembers_of_arrayless (Json.arrayless_object.mp arrayless)
    refine ⟨.group entries, ?_, ?_, finite⟩
    · rw [ofJson, read]
      rfl
    · rw [toJson, spelled, Json.floated]

/-- Members whose documents are without arrays become entries, which are spelled with floats. -/
theorem ofMembers_of_arrayless : ∀ {members : List (String × Json)},
    (∀ entry ∈ members, entry.2.Arrayless) →
    ∃ entries, ofMembers members = .ok entries ∧
      membersToJson entries = Json.floatedMembers members ∧ FiniteEntries entries
  | [], _ => ⟨[], rfl, rfl, trivial⟩
  | (name, document) :: rest, arrayless => by
    obtain ⟨first, others⟩ := List.forall_mem_cons.mp arrayless
    obtain ⟨metadatum, read, spelled, finite⟩ := ofJson_of_arrayless first
    obtain ⟨entries, readRest, spelledRest, finiteRest⟩ := ofMembers_of_arrayless others
    refine ⟨(name, metadatum) :: entries, ?_, ?_, finite, finiteRest⟩
    · simp only [ofMembers, read, readRest, Except.map]
    · rw [membersToJson, spelled, spelledRest, Json.floatedMembers]

end

mutual

/-- A document that becomes a metadata value is without arrays. -/
theorem arrayless_of_ofJson : ∀ {document : Json} {metadatum : Metadatum},
    ofJson document = .ok metadatum → document.Arrayless
  | .null, _, _ => nofun
  | .boolean _, _, _ => nofun
  | .number _, _, _ => nofun
  | .string _, _, _ => nofun
  | .array _, _, read => nomatch read
  | .object members, _, read => by
    rw [ofJson] at read
    -- The object was read, so its members were.
    cases held : ofMembers members with
    | error fault =>
      rw [held] at read
      cases read
    | ok entries => exact Json.arrayless_object.mpr (arrayless_of_ofMembers held)

/-- The documents of members that become entries are without arrays. -/
theorem arrayless_of_ofMembers : ∀ {members : List (String × Json)} {entries : List (String × Metadatum)},
    ofMembers members = .ok entries → ∀ entry ∈ members, entry.2.Arrayless
  | [], _, _ => nofun
  | (name, document) :: rest, _, read => by
    unfold ofMembers at read
    split at read
    · cases read
    · rename_i value first
      -- The first member was read, and the others were after it.
      cases held : ofMembers rest with
      | error fault =>
        rw [held] at read
        cases read
      | ok entries =>
        exact List.forall_mem_cons.mpr ⟨arrayless_of_ofJson first, arrayless_of_ofMembers held⟩

end

end Metadatum

namespace BaseFields

/-- The names of the base fields. -/
def names : List String := ["id", "created_at", "metadata", "tags"]

/-- Writing base fields changes nothing under other names. -/
theorem get?_write (base : BaseFields) (record : Record) {field : String} (other : field ∉ names) :
    (base.write record).get? field = record.get? field := by
  -- Only the four names are written to.
  simp only [names, List.mem_cons, List.not_mem_nil, or_false, not_or] at other
  obtain ⟨id, createdAt, metadata, tags⟩ := other
  simp only [write, Record.put, Dictionary.get?_insert, if_neg (Ne.symm id), if_neg (Ne.symm createdAt),
    if_neg (Ne.symm metadata), if_neg (Ne.symm tags)]

/-- Once base fields were written to a record and removed, it has what it had before under other names. -/
theorem get?_write_without (base : BaseFields) (record : Record) (field : String) :
    ((base.write record).without names).get? field =
      if field ∈ names then none else record.get? field := by
  -- The erased names are those that were written.
  rw [Dictionary.get?_without]
  by_cases named : field ∈ names
  · rw [if_pos named, if_pos named]
  · rw [if_neg named, if_neg named, get?_write base record named]

/--
Base fields are taken out of a record that they were written to, if their metadata is read from its
document, and nothing else is taken.
-/
theorem take_write {base : BaseFields}
    (kept : FieldKind.metadata.decode (FieldKind.metadata.encode base.metadata) = .ok base.metadata)
    (record : Record) :
    take (base.write record) = (.ok base, (base.write record).without names) := by
  -- No field is written or taken under the name of another one.
  have id : (base.write record).get? "id" = some (.text base.id) := by
    simp [write, Record.put, Dictionary.get?_insert, FieldKind.encode]
  have createdAt : ((base.write record).erase "id").get? "created_at" =
      some (.timestamp base.createdAt) := by
    simp [write, Record.put, Dictionary.get?_insert, Dictionary.get?_erase, FieldKind.encode]
  have metadata : (((base.write record).erase "id").erase "created_at").get? "metadata" =
      some (FieldKind.metadata.encode base.metadata) := by
    simp [write, Record.put, Dictionary.get?_insert, Dictionary.get?_erase]
  have tags : ((((base.write record).erase "id").erase "created_at").erase "metadata").get? "tags" =
      some (.textList base.tags) := by
    simp [write, Record.put, Dictionary.get?_insert, Dictionary.get?_erase, FieldKind.encode]
  -- So each of them is there when its turn comes, and fits.
  unfold take
  rw [Record.take_of_get? .text id rfl]
  dsimp only
  rw [Record.take_of_get? .timestamp createdAt rfl]
  dsimp only
  rw [Record.take_of_get? .metadata metadata kept]
  dsimp only
  rw [Record.take_of_get? .textList tags rfl]
  rfl

end BaseFields

namespace Metadata

/-- Metadata without numbers that are not finite is read from the value that it is written as. -/
theorem decode_encode {metadata : Metadata} (finite : metadata.Finite) :
    FieldKind.metadata.decode (FieldKind.metadata.encode metadata) = .ok metadata := by
  -- Reading sets null for numbers that are not finite, of which there are none.
  show (Metadatum.ofMembers (Metadatum.membersToJson metadata)).mapError _ = _
  rw [Metadatum.ofMembers_membersToJson, Metadatum.settledEntries_of_finite finite]
  rfl

/--
Metadata survives being stored. It is read from its document with null in place of the numbers that are
not finite, at every depth, and with nothing else changed. A document becomes a metadata value exactly if
no array occurs in it, and that value is written with the nearest float for every whole number, from which
it is read again. So base fields with finite numbers are taken out of a record that they were written to
as they are, and what is left is what the record had under other names.
-/
theorem stored_and_restored :
    (∀ metadata : Metadata, ofJson metadata.toJson = .ok (Metadatum.settledEntries metadata)) ∧
    (∀ document : Json,
      (∃ metadatum, Metadatum.ofJson document = .ok metadatum) ↔ document.Arrayless) ∧
    (∀ (document : Json) (metadatum : Metadatum), Metadatum.ofJson document = .ok metadatum →
      metadatum.toJson = document.floated ∧
      Metadatum.ofJson metadatum.toJson = .ok metadatum) ∧
    ∀ (base : BaseFields) (record : Record), base.metadata.Finite →
      (BaseFields.take (base.write record)).1 = .ok base ∧
      ∀ field, (BaseFields.take (base.write record)).2.get? field =
        if field ∈ BaseFields.names then none else record.get? field := by
  refine ⟨Metadatum.ofMembers_membersToJson, ?_, ?_, ?_⟩
  · -- An array is refused wherever it occurs, and nothing else is.
    intro document
    refine ⟨fun ⟨metadatum, read⟩ => Metadatum.arrayless_of_ofJson read, fun arrayless => ?_⟩
    obtain ⟨metadatum, read, _⟩ := Metadatum.ofJson_of_arrayless arrayless
    exact ⟨metadatum, read⟩
  · intro document metadatum read
    obtain ⟨other, read', spelled, finite⟩ :=
      Metadatum.ofJson_of_arrayless (Metadatum.arrayless_of_ofJson read)
    cases Except.ok.inj (read.symm.trans read')
    -- The floats of a document are finite, so nothing is lost on the way there and back.
    refine ⟨spelled, ?_⟩
    rw [Metadatum.ofJson_toJson, Metadatum.settled_of_finite finite]
  · -- With finite numbers the metadata is read as it was written, so the record gives all of it back.
    intro base record finite
    rw [BaseFields.take_write (decode_encode finite) record]
    exact ⟨rfl, BaseFields.get?_write_without base record⟩

/-- The base fields of a pump, whose metadata nests and has a minus zero. -/
def pump : BaseFields :=
  ⟨"p-1", ⟨1704067200, 5, by decide, by decide⟩,
    [("limits", .group [("low", .number (.zero .double true))]), ("unit", .text "bar")], []⟩

/-- A record with an identity of its own, which is overwritten, and with one field more. -/
def pumpRecord : Record :=
  (Dictionary.empty.insert "id" (.text "p-0")).insert "speed" (.integer ⟨1450, by decide, by decide⟩)

/-- A nested document with a whole number that no float equals. -/
def countDocument : Json :=
  .object [("counts", .object [("total", .number (.whole 9007199254740995 (by decide) (by decide)))])]

/-- A document with an array behind two members. -/
def sampleDocument : Json :=
  .object [("name", .string "a"), ("samples", .object [("first", .array [])])]

/-- The pump is restored, the whole number becomes a float, and the array is refused. -/
theorem stored_and_restored_pump :
    pump.metadata.Finite ∧
    (BaseFields.take (pump.write pumpRecord)).1 = .ok pump ∧
    (BaseFields.take (pump.write pumpRecord)).2.get? "speed" =
      some (.integer ⟨1450, by decide, by decide⟩) ∧
    (BaseFields.take (pump.write pumpRecord)).2.get? "id" = none ∧
    (∃ metadatum, Metadatum.ofJson countDocument = .ok metadatum ∧
      metadatum.toJson = countDocument.floated) ∧
    ¬ ∃ metadatum, Metadatum.ofJson sampleDocument = .ok metadatum := by
  obtain ⟨_, success, floats, restored⟩ := stored_and_restored
  have finite : pump.metadata.Finite := ⟨⟨rfl, trivial⟩, trivial, trivial⟩
  obtain ⟨base, left⟩ := restored pump pumpRecord finite
  refine ⟨finite, base, left "speed", left "id", ⟨_, rfl, (floats countDocument _ rfl).1⟩, ?_⟩
  rw [success]
  -- The array is in a member of a member.
  intro arrayless
  exact arrayless [] (.member (List.mem_cons_of_mem _ List.mem_cons_self) (.member List.mem_cons_self .self))

end Metadata

end RecordTables
