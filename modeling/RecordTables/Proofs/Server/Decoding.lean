import RecordTables.Proofs.Value.Field
import RecordTables.Server.ResultRow

/-!
What columns are decoded as, and what rows rely on in their decoding. Decoding is the driver's, and it may take
more catalog types for a column than are listed for it. So what is proved of rows rests on four facts about
it, and on nothing else.
-/

namespace RecordTables

namespace StorageType

/-- What a column of a type is decoded as, before it becomes a value. -/
abbrev Host : StorageType → Type
  | .text => String
  | .integer => Signed 32
  | .real => Single
  | .boolean => Bool
  | .timestamp => Timestamp
  | .document => Json
  | .textList => List String

/-- The value that becomes of what was decoded. -/
def ofHost : (storage : StorageType) → storage.Host → Value
  | .text, content => .text content
  | .integer, content => .integer (content.widen (Width.bits_le .bits32))
  | .real, content => .real (Double.ofSingle content)
  | .boolean, content => .boolean content
  | .timestamp, content => .timestamp content
  | .document, content => .document content
  | .textList, content => .textList content

/-- Whatever was decoded, the value is not null. -/
theorem ofHost_ne_null (storage : StorageType) (content : storage.Host) :
    storage.ofHost content ≠ .null := by
  cases storage <;> simp only [ofHost, ne_eq, reduceCtorEq, not_false_eq_true]

/-- A value that can be read from a column of a type: null, or one that becomes of something decoded. -/
def Reads (storage : StorageType) (value : Value) : Prop :=
  value = .null ∨ ∃ content, storage.ofHost content = value

end StorageType

namespace Timestamp

/-- An instant in whole microseconds, and in no leap second. -/
def InMicros (timestamp : Timestamp) : Prop :=
  timestamp.nanos < 1000000000 ∧ timestamp.nanos % 1000 = 0

/-- What lies beyond the microseconds is gone once they are taken. -/
theorem inMicros_of_toMicros {timestamp cut : Timestamp} (taken : timestamp.toMicros = some cut) :
    cut.InMicros := by
  unfold toMicros ofParts? at taken
  dsimp only at taken
  split at taken
  · cases taken
    -- The nanoseconds are the microseconds within a second, times a thousand.
    refine ⟨?_, Nat.mul_mod_left ..⟩
    have below := Int.emod_lt_of_pos timestamp.microsSince2000 (by decide : (0 : Int) < 1000000)
    show (timestamp.microsSince2000 % 1000000).toNat * 1000 < 1000000000
    omega
  · cases taken

/-- An instant in whole microseconds is the same without what lies beyond them. -/
theorem toMicros_of_inMicros {timestamp : Timestamp} (whole : timestamp.InMicros) :
    timestamp.toMicros = some timestamp := by
  obtain ⟨seconds, nanos, nanos_lt, leap_last⟩ := timestamp
  have below : nanos < 1000000000 := whole.1
  have multiple : nanos % 1000 = 0 := whole.2
  -- Without anything beyond the microseconds nothing is cut off, before the year 2000 either.
  have micros : microsSince2000 ⟨seconds, nanos, nanos_lt, leap_last⟩ =
      (seconds - 946684800) * 1000000 + (nanos / 1000 : Nat) := by
    have thousands : (seconds - 946684800) * 1000000000 + (nanos : Int) =
        1000 * ((seconds - 946684800) * 1000000 + (nanos / 1000 : Nat)) := by omega
    rw [microsSince2000, thousands, Int.mul_tdiv_cancel_left _ (by decide)]
  -- The second and the nanoseconds are found again by dividing with a remainder.
  have part : nanos / 1000 < 1000000 := by omega
  have second : 946684800 + ((seconds - 946684800) * 1000000 + (nanos / 1000 : Nat)) / 1000000 =
      seconds := by omega
  have rest : (((seconds - 946684800) * 1000000 + (nanos / 1000 : Nat)) % 1000000).toNat * 1000 =
      nanos := by omega
  unfold toMicros
  dsimp only
  rw [micros, second, rest, ofParts?, dif_pos ⟨nanos_lt, leap_last⟩]

end Timestamp

/-- Whether a value has nothing beyond microseconds, which only instants can have. -/
def Value.InMicros : Value → Prop
  | .timestamp value => value.InMicros
  | _ => True

/-- What rows rely on, of the catalog types that columns are decoded from and of what content is decoded to. -/
structure DecodesHosts (accepted : StorageType → List String)
    (content? : StorageType → Value → Option Value) : Prop where
  -- A column has one of the types that it is decoded from.
  own : ∀ storage, storage.catalogName ∈ accepted storage
  -- Null is no content.
  null : ∀ storage, content? storage .null = none
  -- What is decoded can be read from the column, and has nothing beyond microseconds.
  reads : ∀ {storage value decoded}, content? storage value = some decoded →
    storage.Reads decoded ∧ decoded.InMicros
  -- What can be read from the column is held by it as it is.
  kept : ∀ {storage : StorageType} (content : storage.Host), (storage.ofHost content).InMicros →
    content? storage (storage.ofHost content) = some (storage.ofHost content)

namespace ResultRow

variable {storage : StorageType} {value decoded : Value}

/-- What a column holds for a value is a value that can be read from it, in whole microseconds. -/
theorem reads_of_decodeContent? (held : decodeContent? storage value = some decoded) :
    storage.Reads decoded ∧ decoded.InMicros := by
  unfold decodeContent? at held
  split at held
  · cases held
    exact ⟨.inr ⟨_, rfl⟩, trivial⟩
  · -- An integer is held in 32 bits, if it fits.
    obtain ⟨narrow, _, rfl⟩ := Option.map_eq_some_iff.mp held
    exact ⟨.inr ⟨narrow, rfl⟩, trivial⟩
  · cases held
    exact ⟨.inr ⟨_, rfl⟩, trivial⟩
  · cases held
    exact ⟨.inr ⟨_, rfl⟩, trivial⟩
  · -- An instant is held without what lies beyond its microseconds.
    obtain ⟨cut, taken, rfl⟩ := Option.map_eq_some_iff.mp held
    exact ⟨.inr ⟨cut, rfl⟩, Timestamp.inMicros_of_toMicros taken⟩
  · cases held
    exact ⟨.inr ⟨_, rfl⟩, trivial⟩
  · cases held
    exact ⟨.inr ⟨_, rfl⟩, trivial⟩
  · -- A value of another kind is not held at all.
    cases held

/-- What can be read from a column is held by it as it is, in whole microseconds. -/
theorem decodeContent?_ofHost (content : storage.Host) (whole : (storage.ofHost content).InMicros) :
    decodeContent? storage (storage.ofHost content) = some (storage.ofHost content) := by
  cases storage with
  | integer =>
    -- The integer fits in 32 bits, as that is where it comes from.
    have narrow : Signed.ofInt? 32 content.value = some content := Signed.ofInt?_eq_some.mpr rfl
    exact congrArg (Option.map _) narrow
  | real =>
    -- The float is the nearest one of 32 bits to itself.
    exact congrArg (fun single => some (Value.real (Double.ofSingle single)))
      (Double.toSingle_ofSingle content)
  | timestamp => exact congrArg (Option.map _) (Timestamp.toMicros_of_inMicros whole)
  | _ => rfl

/-- What is written out of the decoding of columns is as rows rely on it to be. -/
theorem decodesHosts : DecodesHosts StorageType.acceptedTypes decodeContent? where
  own storage := by cases storage <;> decide
  null storage := by cases storage <;> rfl
  reads := reads_of_decodeContent?
  kept := decodeContent?_ofHost

end ResultRow

end RecordTables
