import RecordTables.Proofs.Floating.Nearest
import RecordTables.Proofs.Json.Depth
import RecordTables.Proofs.Metadata.Serialization
import RecordTables.Metadata.Reader

/-! Metadata without numbers that are not finite is read back from its own document. -/

namespace RecordTables

/-- The float of a document number is finite. -/
theorem JsonNumber.isFinite_toDouble (value : JsonNumber) : value.toDouble.isFinite = true := by
  -- A whole number of 64 bits is far below infinity, and other numbers were finite when they were read.
  cases value with
  | whole value lower upper => exact Floating.isFinite_ofInt lower upper
  | real value finite => exact finite

namespace Metadatum

mutual

/-- Whether every number in a metadata value is finite. -/
def Finite : Metadatum → Prop
  | .number value => value.isFinite = true
  | .group entries => FiniteEntries entries
  | _ => True

/-- Whether every number in the values of entries is finite. -/
def FiniteEntries : List (String × Metadatum) → Prop
  | [] => True
  | (_, value) :: rest => value.Finite ∧ FiniteEntries rest

end

mutual

/-- A metadata value is read back from its document. -/
theorem ofWritten?_toJson : ∀ {metadatum : Metadatum}, metadatum.Ordered → metadatum.Finite →
    ofWritten? metadatum.toJson.written = some metadatum
  | .null, _, _ => rfl
  | .boolean _, _, _ => rfl
  | .number value, _, finite => by
    rw [toJson, Json.ofDouble_of_finite finite]
    rfl
  | .text _, _, _ => rfl
  | .group entries, ordered, finite => by
    -- The entries are sorted already.
    rw [toJson, Json.written, ofWritten?, entriesOfWritten?_toJson ordered.2 finite, Option.map_some,
      sortEntries_of_ascending ordered.1]

/-- Entries are read back from the members that spell them. -/
theorem entriesOfWritten?_toJson : ∀ {entries : List (String × Metadatum)}, OrderedEntries entries →
    FiniteEntries entries → entriesOfWritten? (Json.writtenMembers (membersToJson entries)) = some entries
  | [], _, _ => rfl
  | (name, value) :: rest, ordered, finite => by
    unfold membersToJson Json.writtenMembers entriesOfWritten?
    rw [ofWritten?_toJson ordered.1 finite.1, entriesOfWritten?_toJson ordered.2 finite.2]

end

/-- Entries are ordered when every value is. -/
theorem orderedEntries_iff {entries : List (String × Metadatum)} :
    OrderedEntries entries ↔ ∀ entry ∈ entries, entry.2.Ordered := by
  -- Both sides say it of the first value and of the rest.
  induction entries with
  | nil => exact iff_of_true trivial nofun
  | cons entry rest ih =>
    rw [List.forall_mem_cons, ← ih]
    rfl

/-- The numbers of entries are finite when those of every value are. -/
theorem finiteEntries_iff {entries : List (String × Metadatum)} :
    FiniteEntries entries ↔ ∀ entry ∈ entries, entry.2.Finite := by
  -- Both sides say it of the first value and of the rest.
  induction entries with
  | nil => exact iff_of_true trivial nofun
  | cons entry rest ih =>
    rw [List.forall_mem_cons, ← ih]
    rfl

/-- The members that spell entries are the entries with the documents of their values. -/
theorem membersToJson_eq (entries : List (String × Metadatum)) :
    membersToJson entries = entries.map fun entry => (entry.1, entry.2.toJson) := by
  induction entries with
  | nil => rfl
  | cons entry rest ih => exact congrArg ((entry.1, entry.2.toJson) :: ·) ih

/-- What holds of a metadata value that is read from a text of some depth. -/
structure Sound (metadatum : Metadatum) (depth : Nat) : Prop where
  ordered : metadatum.Ordered
  finite : metadatum.Finite
  shallow : metadatum.toJson.depth ≤ depth

/-- A group of sound entries is sound when the entries are sorted. -/
theorem sound_group {entries : List (String × Metadatum)} {depth : Nat}
    (sound : ∀ entry ∈ entries, entry.2.Sound depth) : (group (sortEntries entries)).Sound (depth + 1) where
  ordered := ⟨ascending_sortEntries entries,
    orderedEntries_iff.mpr fun entry member => (sound entry (mem_sortEntries member)).ordered⟩
  finite := finiteEntries_iff.mpr fun entry member => (sound entry (mem_sortEntries member)).finite
  shallow := by
    refine Json.depth_object_le ?_
    rw [membersToJson_eq, List.forall_mem_map]
    exact fun entry member => (sound entry (mem_sortEntries member)).shallow

/-- What is sound for a depth is sound for any greater one. -/
theorem Sound.mono {metadatum : Metadatum} {depth bound : Nat} (sound : metadatum.Sound depth)
    (within : depth ≤ bound) : metadatum.Sound bound :=
  ⟨sound.ordered, sound.finite, Nat.le_trans sound.shallow within⟩

mutual

/-- A metadata value that is read is in order, has finite numbers only, and is no deeper than the text. -/
theorem sound_of_ofWritten? : ∀ {written : Written} {metadatum : Metadatum},
    ofWritten? written = some metadatum → metadatum.Sound written.depth
  | .null, _, read => by
    cases read
    exact ⟨trivial, trivial, Nat.le_refl _⟩
  | .boolean _, _, read => by
    cases read
    exact ⟨trivial, trivial, Nat.le_refl _⟩
  | .number _, _, read => by
    -- A numeral too great for a float was refused, so the number has a document of its own.
    obtain ⟨value, _, rfl⟩ := Option.map_eq_some_iff.mp read
    have finite := value.isFinite_toDouble
    refine ⟨trivial, finite, ?_⟩
    rw [toJson, Json.ofDouble_of_finite finite]
    exact Nat.le_refl _
  | .string _, _, read => by
    obtain ⟨_, _, rfl⟩ := Option.map_eq_some_iff.mp read
    exact ⟨trivial, trivial, Nat.le_refl _⟩
  | .array _, _, read => nomatch read
  | .object members, _, read => by
    -- What was read of the members is sorted into a group.
    obtain ⟨entries, held, rfl⟩ := Option.map_eq_some_iff.mp read
    exact sound_group (sound_entries held)

/-- Entries that are read have sound values. -/
theorem sound_entries : ∀ {members : List (WrittenText × Written)} {entries : List (String × Metadatum)},
    entriesOfWritten? members = some entries →
    ∀ entry ∈ entries, entry.2.Sound (Written.depthMembers members)
  | [], _, read => by
    cases read
    exact nofun
  | (name, value) :: rest, _, read => by
    unfold entriesOfWritten? at read
    split at read
    · rename_i name entry others first found
      cases read
      rw [Written.depthMembers]
      refine List.forall_mem_cons.mpr ⟨(sound_of_ofWritten? first).mono (Nat.le_max_left ..), ?_⟩
      exact fun entry member => (sound_entries found entry member).mono (Nat.le_max_right ..)
    · cases read

end

end Metadatum

namespace Metadata

/-- Whether every number in metadata is finite. -/
def Finite (metadata : Metadata) : Prop := Metadatum.FiniteEntries metadata

/-- Metadata is read back from its document. -/
theorem ofWritten?_toJson {metadata : Metadata} (ordered : metadata.Ordered) (finite : metadata.Finite) :
    ofWritten? metadata.toJson.written = some metadata := by
  rw [toJson, Json.written, ofWritten?, Metadatum.entriesOfWritten?_toJson ordered.2 finite,
    Option.map_some, sortEntries_of_ascending ordered.1]

/-- Metadata that is read is that of a group that is read. -/
theorem sound_of_ofWritten? {written : Written} {metadata : Metadata}
    (read : ofWritten? written = some metadata) : (Metadatum.group metadata).Sound written.depth := by
  -- Metadata is only read from an object, whose entries are those of the group.
  unfold ofWritten? at read
  split at read
  · obtain ⟨entries, held, rfl⟩ := Option.map_eq_some_iff.mp read
    exact Metadatum.sound_group (Metadatum.sound_entries held)
  · cases read

end Metadata

end RecordTables
