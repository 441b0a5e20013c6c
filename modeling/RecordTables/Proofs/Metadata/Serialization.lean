import RecordTables.Metadata.Writer
import RecordTables.Proofs.Dictionary

/-!
Metadata given to a serializer, kind by kind. One serializer makes documents and another one compact
text, and both come to what is made of metadata directly.
-/

namespace RecordTables

/-- What a serializer makes of each kind of value; the members of a group are serialized before. -/
structure Serializer (α : Type) where
  unit : α
  boolean : Bool → α
  number : Double → α
  text : String → α
  group : List (String × α) → α

namespace Serializer

/-- The serializer of documents: members are set by name, and a number that is not finite is null. -/
def document : Serializer Json where
  unit := .null
  boolean := .boolean
  number value := if finite : value.isFinite = true then .number (.real value finite) else .null
  text := .string
  group members := .object (sortEntries members)

/-- The compact text of a member. -/
def memberText (member : String × List Char) : List Char :=
  Json.stringText member.1 ++ ':' :: member.2

/-- The serializer of compact text: members are written in order, and a number that is not finite is null. -/
def compact : Serializer (List Char) where
  unit := ['n', 'u', 'l', 'l']
  boolean value := if value then ['t', 'r', 'u', 'e'] else ['f', 'a', 'l', 's', 'e']
  number value := if value.isFinite then Double.text value else ['n', 'u', 'l', 'l']
  text := Json.stringText
  group
    | [] => ['\x7b', '\x7d']
    | first :: rest =>
      '\x7b' :: memberText first ++ (rest.flatMap fun member => ',' :: memberText member) ++ ['\x7d']

end Serializer

namespace Metadatum

mutual

/-- Whether the entries of every group in a metadata value are in ascending order of their names. -/
def Ordered : Metadatum → Prop
  | .group entries => Ascending entries ∧ OrderedEntries entries
  | _ => True

/-- Whether the value of every entry is ordered. -/
def OrderedEntries : List (String × Metadatum) → Prop
  | [] => True
  | (_, value) :: rest => value.Ordered ∧ OrderedEntries rest

end

variable {α : Type} (serializer : Serializer α)

mutual

/-- What a serializer makes of a metadata value. -/
def serialize : Metadatum → α
  | .null => serializer.unit
  | .boolean value => serializer.boolean value
  | .number value => serializer.number value
  | .text value => serializer.text value
  | .group entries => serializer.group (serializeEntries entries)

/-- What a serializer makes of the values of entries. -/
def serializeEntries : List (String × Metadatum) → List (String × α)
  | [] => []
  | (name, value) :: rest => (name, value.serialize) :: serializeEntries rest

end

/-- The document of a number is what the serializer of documents makes of it. -/
theorem ofDouble_eq (value : Double) : Json.ofDouble value = Serializer.document.number value := by
  -- A number that is not finite is null either way.
  unfold Json.ofDouble JsonNumber.ofDouble? Serializer.document
  by_cases finite : value.isFinite = true
  · simp only [finite, dite_true]
  · simp only [finite, Bool.false_eq_true, dite_false]

/-- The members that spell entries have the names of the entries. -/
theorem names_membersToJson (entries : List (String × Metadatum)) :
    (membersToJson entries).map Prod.fst = entries.map Prod.fst := by
  -- Each entry becomes one member, in its place.
  induction entries with
  | nil => rfl
  | cons entry rest ih => exact congrArg (entry.1 :: ·) ih

/-- The members that spell ascending entries are ascending. -/
theorem ascending_membersToJson {entries : List (String × Metadatum)} (ascending : Ascending entries) :
    Ascending (membersToJson entries) := by
  -- Whether entries are ascending is a matter of their names.
  refine List.pairwise_map.mp ?_
  rw [names_membersToJson]
  exact List.pairwise_map.mpr ascending

mutual

/-- The document of a metadata value is what the serializer of documents makes of it. -/
theorem toJson_eq_serialize : ∀ {metadatum : Metadatum}, metadatum.Ordered →
    metadatum.toJson = metadatum.serialize .document
  | .null, _ => rfl
  | .boolean _, _ => rfl
  | .number value, _ => ofDouble_eq value
  | .text _, _ => rfl
  | .group entries, ordered => by
    -- The members are in order, so to set them by name puts each behind the others.
    unfold toJson serialize
    rw [← membersToJson_eq_serialize ordered.2]
    exact congrArg Json.object (sortEntries_of_ascending (ascending_membersToJson ordered.1)).symm

/-- The members that spell entries are what the serializer of documents makes of them. -/
theorem membersToJson_eq_serialize : ∀ {entries : List (String × Metadatum)}, OrderedEntries entries →
    membersToJson entries = serializeEntries .document entries
  | [], _ => rfl
  | (name, value) :: rest, ordered => by
    unfold membersToJson serializeEntries
    rw [toJson_eq_serialize ordered.1, membersToJson_eq_serialize ordered.2]

end

mutual

/-- The compact text of a metadata value is what the serializer of compact text makes of it. -/
theorem compact_eq_serialize : ∀ metadatum : Metadatum, metadatum.compact = metadatum.serialize .compact
  | .null => rfl
  | .boolean true => rfl
  | .boolean false => rfl
  | .number _ => rfl
  | .text _ => rfl
  | .group [] => rfl
  | .group ((name, value) :: rest) => by
    -- The first member follows the brace, and each of the others a comma.
    show compact _ = '\x7b' :: Serializer.memberText (name, value.serialize .compact) ++
      ((serializeEntries .compact rest).flatMap fun member => ',' :: Serializer.memberText member) ++
        ['\x7d']
    rw [← compact_eq_serialize value, ← entriesText_eq_serialize rest, compact]
    unfold Serializer.memberText
    simp only [List.cons_append, List.append_assoc]

/-- The text of further entries is that of what the serializer of compact text makes of them. -/
theorem entriesText_eq_serialize : ∀ entries : List (String × Metadatum),
    entriesText entries =
      (serializeEntries .compact entries).flatMap fun member => ',' :: Serializer.memberText member
  | [] => rfl
  | (name, value) :: rest => by
    unfold entriesText serializeEntries Serializer.memberText
    rw [compact_eq_serialize value, entriesText_eq_serialize rest]
    rfl

end

mutual

/-- The compact text of a metadata value is that of its document. -/
theorem compact_eq_text : ∀ metadatum : Metadatum, metadatum.compact = metadatum.toJson.text
  | .null => rfl
  | .boolean true => rfl
  | .boolean false => rfl
  | .number value => by
    -- A number that is not finite is null on both sides.
    rw [compact, toJson, ofDouble_eq]
    unfold Serializer.document
    by_cases finite : value.isFinite = true
    · simp only [finite, if_true, dite_true]
      rfl
    · simp only [finite, Bool.false_eq_true, if_false, dite_false]
      rfl
  | .text _ => rfl
  | .group [] => rfl
  | .group ((name, value) :: rest) => by
    unfold compact toJson membersToJson Json.text
    rw [compact_eq_text value, entriesText_eq_text rest]

/-- The text of further entries is that of the members that spell them. -/
theorem entriesText_eq_text : ∀ entries : List (String × Metadatum),
    entriesText entries = Json.membersText (membersToJson entries)
  | [] => rfl
  | (name, value) :: rest => by
    unfold entriesText membersToJson Json.membersText
    rw [compact_eq_text value, entriesText_eq_text rest]

end

end Metadatum

namespace Metadata

/-- Whether metadata and all groups in it are in ascending order of the names. -/
def Ordered (metadata : Metadata) : Prop := (Metadatum.group metadata).Ordered

/-- What a serializer makes of metadata. -/
def serialize {α : Type} (serializer : Serializer α) (metadata : Metadata) : α :=
  serializer.group (Metadatum.serializeEntries serializer metadata)

/-- The document of metadata is what the serializer of documents makes of it. -/
theorem toJson_eq_serialize {metadata : Metadata} (ordered : metadata.Ordered) :
    metadata.toJson = metadata.serialize .document := by
  -- Metadata has the document of a group of its entries.
  have group := Metadatum.toJson_eq_serialize ordered
  unfold Metadatum.toJson Metadatum.serialize at group
  exact group

end Metadata

end RecordTables
