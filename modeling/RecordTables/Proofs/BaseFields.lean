import RecordTables.BaseFields
import RecordTables.Proofs.Value.Tagged

/-! The fields that every entity has are read back from their own document. -/

namespace RecordTables

namespace BaseFields

/--
Whether base fields can be written without a loss: the time of creation lies in a year that is kept, the
entries of the metadata are in order, and its numbers are finite.
-/
structure Writable (base : BaseFields) : Prop where
  createdAt : Timestamp.isKept base.createdAt.day = true
  ordered : base.metadata.Ordered
  finite : base.metadata.Finite

/-- Base fields are read back from their document. -/
theorem ofWritten?_toJson {base : BaseFields} (writable : base.Writable) :
    ofWritten? base.toJson.written = some base := by
  have fields : base.toJson.written.fields? ["id", "created_at", "metadata", "tags"] =
      some ⟨true, [some (.string (some base.id)),
        some (Json.string (String.ofList base.createdAt.text)).written, some base.metadata.toJson.written,
        some (Json.array (base.tags.map .string)).written]⟩ := rfl
  -- Every field is read by its own reader.
  rw [ofWritten?, fields]
  simp only [Option.bind_eq_bind, Option.bind_some, Written.text?, Written.orDefault?,
    Value.timestamp?_text writable.createdAt, Metadata.ofWritten?_toJson writable.ordered writable.finite,
    Written.texts?_strings]
  rfl

/-- What is read as base fields can be written without a loss, and is no deeper than the text or two levels. -/
structure Sound (base : BaseFields) (depth : Nat) : Prop where
  writable : base.Writable
  shallow : base.toJson.depth ≤ max 2 depth

/-- Base fields are one deeper than their metadata and tags. -/
theorem depth_toJson_le (base : BaseFields) {bound : Nat} (deep : 1 ≤ bound)
    (metadata : base.metadata.toJson.depth ≤ bound) : base.toJson.depth ≤ bound + 1 := by
  -- Two of the four members are plain, one is a list of texts, and the metadata can be as deep as it likes.
  refine Json.depth_object_le ?_
  simp only [List.forall_mem_cons, List.not_mem_nil, false_imp_iff, implies_true, and_true]
  exact ⟨Nat.zero_le _, Nat.zero_le _, metadata, Nat.le_trans (Written.depth_strings base.tags) deep⟩

/-- What is read as metadata, or left out, is sound for a level less than the text or one. -/
theorem sound_metadata {field : Option Written} {metadata : Metadata} {depth : Nat}
    (read : Written.orDefault? [] Metadata.ofWritten? field = some metadata)
    (inside : ∀ written, field = some written → written.depth + 1 ≤ depth) :
    (Metadatum.group metadata).Sound (max 2 depth - 1) := by
  cases field with
  | none =>
    -- Metadata that is left out has no entries.
    cases read
    refine ⟨⟨List.Pairwise.nil, trivial⟩, trivial, ?_⟩
    show 1 ≤ max 2 depth - 1
    omega
  | some written =>
    have within := inside written rfl
    exact (Metadata.sound_of_ofWritten? read).mono (by omega)

/-- What is read as base fields is sound. -/
theorem sound_of_ofWritten? {written : Written} {base : BaseFields}
    (read : ofWritten? written = some base) : base.Sound written.depth := by
  obtain ⟨fields, found, rest⟩ := Option.bind_eq_some_iff.mp read
  split at rest
  · rename_i id createdAt metadata tags values
    simp only [Option.bind_eq_bind, Option.bind_eq_some_iff] at rest
    obtain ⟨name, _, instant, held, entries, given, labels, _, same⟩ := rest
    cases same
    obtain ⟨_, _, readInstant⟩ := Option.bind_eq_some_iff.mp held
    -- Of the fields only the metadata can be deeper than a list of strings.
    have inside : ∀ content, metadata = some content → content.depth + 1 ≤ written.depth :=
      fun content present => Written.depth_field found (by simp [values, present])
    obtain ⟨ordered, finite, shallow⟩ := sound_metadata given inside
    refine ⟨⟨Timestamp.isKept_of_read? readInstant, ordered, finite⟩, ?_⟩
    have deeper := depth_toJson_le ⟨name, instant, entries, labels⟩ (by omega) shallow
    omega
  · cases rest

end BaseFields

end RecordTables
