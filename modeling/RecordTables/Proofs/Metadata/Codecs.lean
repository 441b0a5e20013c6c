import RecordTables.Proofs.Metadata.Reading
import RecordTables.Proofs.Metadata.Serialization

/-!
Metadata has two ways into JSON and two ways out of it: by a document that is made and taken apart
directly, and by a serializer and readers that know nothing but the kinds of values. They agree.
-/

namespace RecordTables

namespace Metadata

/--
What is made of metadata directly is what a serializer makes of it, as a document and as text, where a
number that is not finite is null. A metadata value is read as the first kind that it can be read as.
What is read of a document directly is what is read of it as written, and so of any text that the
document is taken from, if no object of the text gives a name twice. Only for null itself the two ways
out differ: directly it is no entries, and as written it is no metadata.
-/
theorem codecs_agree :
    (∀ metadatum : Metadatum, metadatum.Ordered →
      metadatum.toJson = metadatum.serialize .document ∧
      metadatum.compact = metadatum.serialize .compact ∧
      metadatum.compact = metadatum.toJson.text) ∧
    (∀ metadata : Metadata, metadata.Ordered → metadata.toJson = metadata.serialize .document) ∧
    (∀ written, Metadatum.ofWritten? written =
      Metadatum.kinds.findSome? fun read? => read? written) ∧
    (∀ document : Json, document.Ordered →
      (Metadatum.ofJson document).toOption = Metadatum.ofWritten? document.written ∧
      (document ≠ .null → (ofJson document).toOption = ofWritten? document.written)) ∧
    (∀ written document, written.Distinct → written.document? = some document →
      (Metadatum.ofJson document).toOption = Metadatum.ofWritten? written ∧
      (document ≠ .null → (ofJson document).toOption = ofWritten? written)) ∧
    ofJson .null = .ok [] ∧ ofWritten? Json.null.written = none := by
  -- A document is one that is taken from what would be written for it.
  have texts : ∀ written document, written.Distinct → written.document? = some document →
      (Metadatum.ofJson document).toOption = Metadatum.ofWritten? written ∧
      (document ≠ .null → (ofJson document).toOption = ofWritten? written) := by
    intro written document distinct held
    refine ⟨?_, ?_⟩
    · rw [Metadatum.ofWritten?_eq distinct, held]
      rfl
    · intro present
      -- Null is metadata in one of the ways only, and is left out.
      have writtenPresent : written ≠ .null := by
        rintro rfl
        cases held
        exact present rfl
      rw [ofWritten?_eq distinct writtenPresent, held]
      rfl
  refine ⟨?_, fun metadata ordered => toJson_eq_serialize ordered, Metadatum.ofWritten?_kinds, ?_,
    texts, rfl, rfl⟩
  · intro metadatum ordered
    exact ⟨Metadatum.toJson_eq_serialize ordered, Metadatum.compact_eq_serialize metadatum,
      Metadatum.compact_eq_text metadatum⟩
  · intro document ordered
    exact texts document.written document (Json.distinct_written ordered)
      (Json.document?_written ordered)

/-- Metadata with a number that is not finite, and a group behind it. -/
def gaugeMetadata : Metadata :=
  [("limit", .number .nan), ("unit", .group [("name", .text "bar")])]

/-- A document with a whole number that no float equals. -/
def gaugeDocument : Json :=
  .object [("count", .number (.whole 9007199254740993 (by decide) (by decide)))]

/-- A document with a list behind an object. -/
def listDocument : Json := .object [("unit", .object [("names", .array [.string "bar"])])]

/-- The number that is not finite is null, the whole number is a float, and the list is refused. -/
theorem codecs_agree_gauges :
    (Metadatum.group gaugeMetadata).serialize .document =
      .object [("limit", .null), ("unit", .object [("name", .string "bar")])] ∧
    gaugeMetadata.serialize .document = (Metadatum.group gaugeMetadata).serialize .document ∧
    ofWritten? gaugeDocument.written =
      some [("count", .number (Floating.ofInt .double 9007199254740993))] ∧
    ofWritten? listDocument.written = none ∧
    Metadatum.ofWritten? (.object [(some "unit", .null), (some "count", .boolean true)]) =
      some (.group [("count", .boolean true), ("unit", .null)]) := by
  -- One decoder is run on each document, and the theorem says what the other makes of it.
  obtain ⟨values, whole, _, documents, texts, _⟩ := codecs_agree
  have ordered : (Metadatum.group gaugeMetadata).Ordered :=
    ⟨List.pairwise_pair.mpr (by decide), trivial, ⟨List.pairwise_singleton _ _, trivial, trivial⟩, trivial⟩
  refine ⟨(values _ ordered).1.symm, (whole _ ordered).symm.trans (values _ ordered).1, ?_, ?_, ?_⟩
  · exact ((documents gaugeDocument ⟨List.pairwise_singleton _ _, trivial, trivial⟩).2 nofun).symm
  · exact ((documents listDocument ⟨List.pairwise_singleton _ _,
      ⟨List.pairwise_singleton _ _, ⟨trivial, trivial⟩, trivial⟩, trivial⟩).2 nofun).symm
  · exact ((texts (.object [(some "unit", .null), (some "count", .boolean true)]) (.object _)
      ⟨List.pairwise_pair.mpr (by decide), trivial, trivial, trivial⟩ rfl).1).symm

end Metadata

end RecordTables
