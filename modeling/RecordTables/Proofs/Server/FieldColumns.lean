import RecordTables.Proofs.Server.Decoding

/-!
What fields write, and what the columns made for them are decoded as. Three tables have to fit together:
the column type of a field, the value that the field writes, and the type that the column is decoded as.
They do for all fields but two. Integers of 64 bits and floats of 64 bits are written whole and go to
columns that are decoded as 32 bits.
-/

namespace RecordTables

namespace ResultRow

variable {storage : StorageType} {value : Value}

/-- A column that can be decoded gives a value that can be read from it. -/
theorem reads_of_decode {row : ResultRow} {column : String}
    (read : row.decode column storage = .ok value) : storage.Reads value ∧ value.InMicros := by
  unfold decode at read
  split at read
  · -- There is no such column.
    cases read
  · -- Null is read from a column of any type.
    cases read
    exact ⟨.inl rfl, trivial⟩
  · split at read
    · split at read
      · rename_i held
        cases read
        exact decodesHosts.reads held
      · cases read
    · cases read

/-- A column of the type that it was made with gives back a value that can be read from it. -/
theorem decode_of_reads {row : ResultRow} {column : String}
    (cell : row.cell? column = some (storage.catalogName, value)) (readable : storage.Reads value)
    (whole : value.InMicros) : row.decode column storage = .ok value := by
  rcases readable with rfl | ⟨content, rfl⟩
  · -- Null is not decoded.
    simp only [decode, cell]
  · have given := storage.ofHost_ne_null content
    unfold decode
    rw [cell]
    split
    · rename_i missing
      cases missing
    · rename_i missing
      exact absurd (Prod.mk.inj (Option.some.inj missing)).2 given
    · -- The column has the type that it is decoded from, and the value is what was decoded.
      rename_i found
      cases found
      rw [if_pos (List.contains_iff_mem.mpr (decodesHosts.own storage)), decodesHosts.kept content whole]

end ResultRow

namespace StorageType

/-- From a column for integers every integer of 32 bits can be read, and no other. -/
theorem reads_integer_iff {value : Signed 64} :
    integer.Reads (.integer value) ↔ -(2 ^ (32 - 1)) ≤ value.value ∧ value.value < 2 ^ (32 - 1) := by
  -- What was decoded is the integer of 32 bits with the same value.
  rw [← Signed.ofInt?_isSome, Option.isSome_iff_exists]
  constructor
  · rintro (impossible | ⟨content, same⟩)
    · cases impossible
    · cases same
      exact ⟨content, Signed.ofInt?_eq_some.mpr rfl⟩
  · rintro ⟨narrow, found⟩
    have held : narrow.value = value.value := Signed.ofInt?_eq_some.mp found
    have same : narrow.widen (by decide) = value := Signed.eq_of_value held
    exact .inr ⟨narrow, congrArg Value.integer same⟩

/-- From a column for floats every float that stays the same in 32 bits can be read, and no other. -/
theorem reads_real_iff {value : Double} :
    real.Reads (.real value) ↔ Double.ofSingle (Double.toSingle value) = value := by
  constructor
  · rintro (impossible | ⟨content, same⟩)
    · cases impossible
    · -- What was decoded has 32 bits, and is its own nearest number of 32 bits.
      cases same
      rw [Double.toSingle_ofSingle]
  · exact fun same => .inr ⟨Double.toSingle value, congrArg Value.real same⟩

end StorageType

namespace FieldKind

/-- The type that a field of a kind is declared with; a field for a value of any kind has none. -/
def declared? : FieldKind → Option FieldType
  | .text => some .text
  | .signed width => some (.signed width.bits)
  | .single => some (.floating 32)
  | .double => some (.floating 64)
  | .boolean => some .boolean
  | .timestamp => some .timestamp
  | .document => some .document
  | .metadata => some (.map .text .metadatum)
  | .textList => some (.list .text)
  -- Anything at all has no column type.
  | .anyValue => none
  | .optional inner => inner.declared?.map .optional

/-- The type of the column that is made for a field of a kind, if one is. -/
def storage? (kind : FieldKind) : Option StorageType :=
  kind.declared?.bind fun type => StorageType.ofShape? type.shape

/-- An optional field has a column of the same type as the field inside. -/
theorem storage?_optional (inner : FieldKind) : (optional inner).storage? = inner.storage? := by
  simp only [storage?, declared?, Option.bind_map]
  rfl

/-- Whether contents fit in 32 bits where their column has no more. -/
def Fits : (kind : FieldKind) → kind.Carrier → Prop
  | .signed .bits64, content => -(2 ^ (32 - 1)) ≤ content.value ∧ content.value < 2 ^ (32 - 1)
  | .double, content => Double.ofSingle (Double.toSingle content) = content
  | .optional inner, some content => inner.Fits content
  | _, _ => True

/-- An integer of at most 32 bits can be read from a column for integers. -/
theorem reads_signed {width : Width} (narrow : width.bits ≤ 32) (content : Signed width.bits) :
    StorageType.integer.Reads ((signed width).encode content) := by
  -- A narrower range lies within the wider one.
  have power : (2 : Int) ^ (width.bits - 1) ≤ 2 ^ (32 - 1) := by
    have naturals : 2 ^ (width.bits - 1) ≤ 2 ^ (32 - 1) :=
      Nat.pow_le_pow_right (by decide) (Nat.sub_le_sub_right narrow 1)
    exact_mod_cast naturals
  exact StorageType.reads_integer_iff.mpr ⟨Int.le_trans (Int.neg_le_neg power) content.lower,
    Int.lt_of_lt_of_le content.upper power⟩

/-- What a field writes can be read from its column exactly if it fits. -/
theorem reads_encode_iff {kind : FieldKind} {storage : StorageType}
    (stored : kind.storage? = some storage) (content : kind.Carrier) :
    storage.Reads (kind.encode content) ↔ kind.Fits content := by
  -- The induction is on optional fields, which write null or what the field inside writes.
  induction kind with
  | signed width =>
    cases stored
    cases width with
    | bits64 => exact StorageType.reads_integer_iff
    | _ => exact iff_of_true (reads_signed (by decide) content) trivial
  | double =>
    cases stored
    exact StorageType.reads_real_iff
  | optional inner ih =>
    rw [storage?_optional] at stored
    cases content with
    | none => exact iff_of_true (.inl rfl) trivial
    | some content => exact ih stored content
  -- No column is made for documents and for values of any kind.
  | document => cases stored
  | anyValue => cases stored
  | _ =>
    -- All others are decoded as what they hold.
    cases stored
    exact iff_of_true (.inr ⟨_, rfl⟩) trivial

/--
What a field writes can be read from the column made for it exactly if it fits, which only integers of 64
bits and floats of 64 bits may fail to do. Every row that gives it back shows that it fits, and has whole
microseconds where it is an instant. The other way round, a column of the type that was made, in which the
written value is kept, gives it back.
-/
theorem columns_hold_contents_iff {kind : FieldKind} {storage : StorageType}
    (stored : kind.storage? = some storage) (content : kind.Carrier) :
    (storage.Reads (kind.encode content) ↔ kind.Fits content) ∧
    ((∃ (row : ResultRow) (column : String), row.decode column storage = .ok (kind.encode content)) ↔
      kind.Fits content ∧ (kind.encode content).InMicros) ∧
    (kind.Fits content → (kind.encode content).InMicros → ∀ (row : ResultRow) (column : String),
      row.cell? column = some (storage.catalogName, kind.encode content) →
        row.decode column storage = .ok (kind.encode content)) := by
  have readable := reads_encode_iff stored content
  have given : kind.Fits content → (kind.encode content).InMicros → ∀ (row : ResultRow) column,
      row.cell? column = some (storage.catalogName, kind.encode content) →
        row.decode column storage = .ok (kind.encode content) :=
    fun fits whole row column cell => ResultRow.decode_of_reads cell (readable.mpr fits) whole
  refine ⟨readable, ⟨?_, ?_⟩, given⟩
  · rintro ⟨row, column, read⟩
    obtain ⟨reads, whole⟩ := ResultRow.reads_of_decode read
    exact ⟨readable.mp reads, whole⟩
  · rintro ⟨fits, whole⟩
    -- A row of the one column is enough.
    exact ⟨⟨[("c", storage.catalogName)], [kind.encode content]⟩, "c", given fits whole _ _ rfl⟩

/-- The least whole number that has no room in 32 bits. -/
def wideCount : Signed 64 := ⟨2147483648, by decide, by decide⟩

/-- The 64-bit float nearest to one tenth. -/
def tenth : Double := .number false 4591870180066957722 (by decide)

/-- The 32-bit float nearest to one tenth, in 64 bits. -/
def roughTenth : Double := .number false 4591870180174331904 (by decide)

/-- A row with a level of one tenth, in a column of the type that is made for floats. -/
def levelRow : ResultRow := ⟨[("level", "float4")], [.real tenth]⟩

/-- Minus two to the power of 31 is given back, and a level that 32 bits can hold as well. -/
theorem columns_hold_contents_levels :
    (optional (signed .bits64)).storage? = some .integer ∧
    ResultRow.decode ⟨[("count", "int4")], [.integer ⟨-2147483648, by decide, by decide⟩]⟩ "count"
      .integer = .ok (.integer ⟨-2147483648, by decide, by decide⟩) ∧
    FieldKind.double.storage? = some .real ∧
    StorageType.real.Reads (FieldKind.double.encode roughTenth) := by
  have count : (optional (signed .bits64)).storage? = some .integer := rfl
  have level : FieldKind.double.storage? = some .real := rfl
  -- The count is within the range of 32 bits, and the level is one that narrowing leaves alone.
  obtain ⟨_, _, kept⟩ := columns_hold_contents_iff count (some ⟨-2147483648, by decide, by decide⟩)
  have unchanged : Double.ofSingle (Double.toSingle roughTenth) = roughTenth := by decide +kernel
  exact ⟨count, kept ⟨by decide, by decide⟩ trivial _ _ rfl, level,
    (columns_hold_contents_iff level roughTenth).1.mpr unchanged⟩

/--
Not all that fields write can be read from their columns: 2147483648 in a field of 64 bits cannot, nor
can one tenth, in place of which another number is read, although the fields themselves hold both.
-/
theorem wide_contents_lost :
    (¬ ∀ (kind : FieldKind) (storage : StorageType), kind.storage? = some storage →
      ∀ content : kind.Carrier, storage.Reads (kind.encode content)) ∧
    ((signed .bits64).storage? = some .integer ∧
      ¬ StorageType.integer.Reads ((signed .bits64).encode wideCount) ∧
      (signed .bits64).decode ((signed .bits64).encode wideCount) = .ok wideCount) ∧
    FieldKind.double.storage? = some .real ∧
    ¬ StorageType.real.Reads (FieldKind.double.encode tenth) ∧
    FieldKind.double.decode (FieldKind.double.encode tenth) = .ok tenth ∧
    levelRow.decode "level" .real = .ok (FieldKind.double.encode roughTenth) ∧ roughTenth ≠ tenth := by
  -- The count is above the range of the column, and the tenth is not the number that narrowing makes of it.
  have count : ¬ StorageType.integer.Reads ((signed .bits64).encode wideCount) :=
    mt StorageType.reads_integer_iff.mp (by decide)
  have level : ¬ StorageType.real.Reads (FieldKind.double.encode tenth) :=
    mt StorageType.reads_real_iff.mp (by decide +kernel)
  have rounded : Double.ofSingle (Double.toSingle tenth) = roughTenth := by decide +kernel
  refine ⟨fun always => count (always (signed .bits64) .integer rfl wideCount),
    ⟨rfl, count, rfl⟩, rfl, level, rfl, ?_, by decide⟩
  exact congrArg (fun number => Except.ok (Value.real number)) rounded

end FieldKind

end RecordTables
