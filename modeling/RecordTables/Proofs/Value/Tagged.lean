import RecordTables.Proofs.Json.Decoder
import RecordTables.Proofs.Json.Document
import RecordTables.Proofs.Json.Writing
import RecordTables.Proofs.Metadata.RoundTrip
import RecordTables.Proofs.Time.Text
import RecordTables.Value.Tagged

/-! Values are read back from their own documents, and what is read as a value is no deeper than the text. -/

namespace RecordTables

namespace Value

/--
Whether a value can be written without a loss: a real is finite, an instant lies in a year that is kept, and
the members of a document are in order.
-/
def Writable : Value → Prop
  | .real value => value.isFinite = true
  | .timestamp value => Timestamp.isKept value.day = true
  | .document value => value.Ordered
  | _ => True

/-- Every kind is found under its name. -/
theorem Kind.ofTag?_tag (kind : Kind) : ofTag? kind.tag = some kind := by
  cases kind <;> rfl

/-- An instant is read back from a string with its text. -/
theorem timestamp?_text {timestamp : Timestamp} (kept : Timestamp.isKept timestamp.day = true) :
    timestamp? (Json.string (String.ofList timestamp.text)).written = some timestamp := by
  rw [timestamp?, Json.written, Written.text?, Option.bind_some, String.toList_ofList,
    Timestamp.read?_text kept]

/-- A whole number of 64 bits is read back. -/
theorem signed?_ofSigned (value : Signed 64) : (ofSigned value).written.signed? 64 = some value :=
  dif_pos ⟨value.lower, value.upper⟩

/-- The content of a value is read back by the reader of its kind. -/
theorem ofContent?_content {value : Value} (writable : value.Writable) {content : Json}
    (given : value.content? = some content) : ofContent? value.kind content.written = some value := by
  -- The kind names the reader, so that each reader only meets what its own kind has written.
  cases value with
  -- Null has no content, and its tag stands alone.
  | null => cases given
  | text value =>
    cases given
    rfl
  | integer value =>
    cases given
    rw [kind, ofContent?, signed?_ofSigned, Option.map_some]
  | real value =>
    cases given
    -- Of the floats only those that are finite are written as numbers.
    rw [Json.ofDouble_of_finite writable]
    rfl
  | boolean value =>
    cases given
    rfl
  | timestamp value =>
    cases given
    -- An instant in a year that is not kept would not be read, and is not writable.
    rw [kind, ofContent?, timestamp?_text writable, Option.map_some]
  | document value =>
    cases given
    -- The members come back in their order because a writable document has them in order.
    rw [kind, ofContent?, Json.document?_written writable, Option.map_some]
  | textList items =>
    cases given
    rw [kind, ofContent?, Written.texts?_strings, Option.map_some]

/-- A value is read back from its document. -/
theorem ofWritten?_toJson {value : Value} (writable : value.Writable) :
    ofWritten? value.toJson.written = some value := by
  cases given : value.content? with
  | none =>
    -- Only null has no content.
    cases value with
    | null => rfl
    | _ => cases given
  | some content =>
    have read := ofContent?_content writable given
    unfold toJson
    rw [given]
    show ((Kind.ofTag? value.kind.tag).bind fun kind => ofContent? kind content.written) = some value
    rw [Kind.ofTag?_tag]
    exact read

/-- What is read as a value of a kind can be written without a loss, and is no deeper. -/
structure Sound (value : Value) (depth : Nat) : Prop where
  writable : value.Writable
  shallow : value.toJson.depth ≤ depth

/-- A value is one deeper than its content. -/
theorem depth_toJson {value : Value} {content : Json} (given : value.content? = some content) :
    value.toJson.depth = content.depth + 1 := by
  -- The tag is no deeper than any content, and the two stand in one object.
  unfold toJson
  rw [given]
  show max 0 (max content.written.depth 0) + 1 = _
  simp
  rfl

/-- A value is at most one deeper than any bound on the depth of its content, which it may lack. -/
theorem depth_toJson_le {value : Value} {depth : Nat}
    (content : ∀ content, value.content? = some content → content.depth ≤ depth) :
    value.toJson.depth ≤ depth + 1 := by
  -- Only null has no content, and its object is as deep as a tag.
  cases given : value.content? with
  | none =>
    cases value with
    | null => exact Nat.le_add_left ..
    | _ => cases given
  | some held =>
    rw [depth_toJson given]
    exact Nat.succ_le_succ (content held given)

/-- A number that is read is finite. -/
theorem isFinite_of_double? {written : Written} {value : Double} (read : written.double? = some value) :
    value.isFinite = true := by
  -- Texts have no numbers but finite ones.
  unfold Written.double? at read
  split at read
  · obtain ⟨number, _, rfl⟩ := Option.map_eq_some_iff.mp read
    exact number.isFinite_toDouble
  · cases read

/-- A list of strings is read from an array. -/
theorem depth_of_texts? {written : Written} {texts : List String} (read : written.texts? = some texts) :
    1 ≤ written.depth := by
  -- Texts are read from an array and from nothing else.
  cases written with
  | array items => exact Nat.le_add_left ..
  | _ => cases read

/-- What is read as the content of a value is sound for one level more. -/
theorem sound_of_ofContent? {kind : Kind} {written : Written} {value : Value}
    (read : ofContent? kind written = some value) : value.Sound (written.depth + 1) := by
  -- Only documents and lists are deeper than nothing, and no deeper than what they are read from.
  have flat : ∀ {value : Value}, value.Writable →
      (∀ content, value.content? = some content → content.depth = 0) → value.Sound (written.depth + 1) :=
    fun writable content =>
      ⟨writable, depth_toJson_le fun held given => content held given ▸ Nat.zero_le _⟩
  unfold ofContent? at read
  split at read
  · cases read
    exact flat trivial nofun
  · cases read
  all_goals obtain ⟨held, found, rfl⟩ := Option.map_eq_some_iff.mp read
  · refine flat trivial ?_
    rintro _ ⟨⟩
    rfl
  · refine flat trivial ?_
    rintro _ ⟨⟩
    rfl
  -- A number that was read is finite, so that it is written as a number again.
  · have finite := isFinite_of_double? found
    refine flat finite ?_
    rintro _ ⟨⟩
    rw [Json.ofDouble_of_finite finite]
    rfl
  · refine flat trivial ?_
    rintro _ ⟨⟩
    rfl
  · obtain ⟨text, _, instant⟩ := Option.bind_eq_some_iff.mp found
    refine flat (Timestamp.isKept_of_read? instant) ?_
    rintro _ ⟨⟩
    rfl
  · -- A document was put in order when it was read.
    refine ⟨Written.ordered_document? found, depth_toJson_le ?_⟩
    rintro _ ⟨⟩
    exact Written.depth_document? found
  · refine ⟨trivial, depth_toJson_le ?_⟩
    rintro _ ⟨⟩
    exact Nat.le_trans (Written.depth_strings held) (depth_of_texts? found)

/-- What is read as a value is sound. -/
theorem sound_of_ofWritten? {written : Written} {value : Value}
    (read : ofWritten? written = some value) : value.Sound written.depth := by
  obtain ⟨fields, found, rest⟩ := Option.bind_eq_some_iff.mp read
  split at rest
  · rename_i tag content values
    obtain ⟨kind, _, held⟩ := Option.bind_eq_some_iff.mp rest
    cases content with
    -- The content lies one level further down; null without a content has its name there.
    | some content =>
      have given : some content ∈ fields.values := by simp [values]
      have inside := Written.depth_field found given
      obtain ⟨writable, shallow⟩ := sound_of_ofContent? held
      exact ⟨writable, Nat.le_trans shallow inside⟩
    | none =>
      have given : some tag ∈ fields.values := by simp [values]
      have inside := Written.depth_field found given
      simp only [Option.ite_none_right_eq_some, Option.some.injEq] at held
      obtain ⟨_, rfl⟩ := held
      exact ⟨trivial, Nat.le_trans (Nat.le_add_left ..) inside⟩
  · cases rest

end Value

end RecordTables
