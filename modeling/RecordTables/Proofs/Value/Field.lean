import RecordTables.Proofs.Floating.Exact
import RecordTables.Value.Field

/-!
What a field holds comes back out of the column value that it was written as, for every kind of field whose
contents are written as they are. Metadata is not of these kinds, as a document has no place for numbers
that are not finite.
-/

namespace RecordTables

namespace Signed

variable {bits : Nat} {value : Int}

/-- Integers of one width are the same if their values are. -/
theorem eq_of_value {left right : Signed bits} (same : left.value = right.value) : left = right := by
  -- The bounds are propositions, so that the number is all there is.
  cases left
  cases right
  cases same
  rfl

/-- A whole number becomes the integer of a width that has its value. -/
theorem ofInt?_eq_some {narrow : Signed bits} :
    ofInt? bits value = some narrow ↔ narrow.value = value := by
  unfold ofInt?
  split
  · constructor
    · intro same
      cases same
      rfl
    · exact fun same => congrArg some (eq_of_value same.symm)
  · rename_i outside
    -- The value of an integer is in the range of its width.
    refine iff_of_false nofun ?_
    rintro rfl
    exact outside ⟨narrow.lower, narrow.upper⟩

/-- A whole number fits in a width exactly if it is in the range of the width. -/
theorem ofInt?_isSome : (ofInt? bits value).isSome = true ↔
    -(2 ^ (bits - 1)) ≤ value ∧ value < 2 ^ (bits - 1) := by
  -- The range is what is checked.
  unfold ofInt?
  split
  · rename_i inside
    exact iff_of_true rfl inside
  · rename_i outside
    exact iff_of_false nofun outside

end Signed

namespace FieldKind

/-- Whether the contents of a kind are written as they are, none of them as null and none in part. -/
def isPlain : FieldKind → Bool
  | .metadata => false
  | .anyValue => false
  | .optional _ => false
  | _ => true

variable {kind : FieldKind}

/-- Plain contents are never written as null, not even an empty list or the null document. -/
theorem encode_ne_null (plain : kind.isPlain = true) (content : kind.Carrier) :
    kind.encode content ≠ .null := by
  -- The three kinds that can be null are not plain, and every other writes a value of its own kind.
  cases kind with
  | metadata => cases plain
  | anyValue => cases plain
  | optional inner => cases plain
  | _ => simp only [encode, ne_eq, reduceCtorEq, not_false_eq_true]

/-- An integer is read in a width as the one that has its value. -/
theorem decodeSigned_eq_ok {width : Width} {value : Signed 64} {narrow : Signed width.bits} :
    decodeSigned width (.integer value) = .ok narrow ↔ narrow.value = value.value := by
  rw [← Signed.ofInt?_eq_some]
  unfold decodeSigned
  dsimp only
  -- The field reads what fits in its width, and refuses everything else.
  split
  · rename_i held found
    rw [found, Except.ok.injEq, Option.some.injEq]
  · rename_i missing
    rw [missing]
    exact iff_of_false nofun nofun

/-- An integer that is out of the range of a width is refused, with its value. -/
theorem decodeSigned_outside {width : Width} {value : Signed 64}
    (outside : ¬ (-(2 ^ (width.bits - 1)) ≤ value.value ∧ value.value < 2 ^ (width.bits - 1))) :
    decodeSigned width (.integer value) = .error (.outOfRange value.value width) := by
  -- Out of range, there is no integer of the width.
  have none : Signed.ofInt? width.bits value.value = none := by
    rw [← Option.not_isSome_iff_eq_none, Signed.ofInt?_isSome]
    exact outside
  unfold decodeSigned
  simp only [none]

/-- Plain contents are read back from what they were written as. -/
theorem decode_encode (plain : kind.isPlain = true) (content : kind.Carrier) :
    kind.decode (kind.encode content) = .ok content := by
  cases kind with
  | signed width =>
    -- A wider integer has the same value, which the width has room for.
    exact decodeSigned_eq_ok.mpr rfl
  | single =>
    -- The wider float is narrowed again, to the number that it came from.
    exact congrArg Except.ok (Double.toSingle_ofSingle content)
  | metadata => cases plain
  | anyValue => cases plain
  | optional inner => cases plain
  -- The others are written as they are, under the mark of their kind.
  | _ => rfl

/-- An optional field reads anything but null as the field inside does. -/
theorem decode_optional {value : Value} (given : value ≠ .null) :
    (optional kind).decode value = (kind.decode value).map some := by
  -- Only null is taken for nothing.
  cases value with
  | null => exact absurd rfl given
  | _ => rfl

/--
Fields are converted without a loss. Plain contents are read back from what they were written as, also from
within an optional field, where what is absent is read as absent and nothing else is. An integer is read in
a width exactly if it is in range, and keeps its value; otherwise it is refused. A 32-bit number stays the
same when it is widened to 64 bits and rounded again, whatever its exponent and its sign.
-/
theorem conversion_lossless :
    (∀ kind : FieldKind, kind.isPlain = true → ∀ content : kind.Carrier,
      kind.decode (kind.encode content) = .ok content ∧
      (optional kind).decode ((optional kind).encode (some content)) = .ok (some content)) ∧
    (∀ kind : FieldKind, (optional kind).decode ((optional kind).encode none) = .ok none) ∧
    (∀ (width : Width) (value : Signed 64),
      ((∃ narrow, (signed width).decode (.integer value) = .ok narrow ∧ narrow.value = value.value) ↔
        -(2 ^ (width.bits - 1)) ≤ value.value ∧ value.value < 2 ^ (width.bits - 1)) ∧
      (¬ (-(2 ^ (width.bits - 1)) ≤ value.value ∧ value.value < 2 ^ (width.bits - 1)) →
        (signed width).decode (.integer value) = .error (.outOfRange value.value width))) ∧
    ∀ value : Single, Double.toSingle (Double.ofSingle value) = value := by
  refine ⟨?_, fun kind => rfl, ?_, Double.toSingle_ofSingle⟩
  · intro kind plain content
    refine ⟨decode_encode plain content, ?_⟩
    -- What is present is not written as null, so it is read by the field inside.
    have written : (optional kind).encode (some content) = kind.encode content := rfl
    rw [written, decode_optional (encode_ne_null plain content), decode_encode plain content]
    rfl
  · intro width value
    refine ⟨?_, decodeSigned_outside⟩
    -- Being in range is the same as there being an integer of the width with the value.
    rw [← Signed.ofInt?_isSome, Option.isSome_iff_exists]
    refine exists_congr fun narrow => ?_
    rw [Signed.ofInt?_eq_some]
    exact ⟨And.right, fun same => ⟨decodeSigned_eq_ok.mpr same, same⟩⟩

/-- The least positive 32-bit number, which is far from the least of the 64-bit numbers. -/
def leastSingle : Single := .number false 1 (by decide)

/-- An empty list and the null document are present in optional fields, and 128 is no integer of 8 bits. -/
theorem conversion_lossless_corners :
    isPlain .textList = true ∧ isPlain .document = true ∧
    (optional .textList).decode ((optional .textList).encode (some [])) = .ok (some []) ∧
    (optional .document).decode ((optional .document).encode (some .null)) = .ok (some .null) ∧
    FieldKind.single.decode (FieldKind.single.encode leastSingle) = .ok leastSingle ∧
    (signed .bits8).decode (.integer ⟨128, by decide, by decide⟩) =
      .error (.outOfRange 128 .bits8) := by
  -- An empty list and the null document are content, and one more than the greatest number is not.
  obtain ⟨kept, _, narrow, _⟩ := conversion_lossless
  exact ⟨rfl, rfl, (kept .textList rfl []).2, (kept .document rfl .null).2,
    (kept .single rfl leastSingle).1, (narrow .bits8 ⟨128, by decide, by decide⟩).2 (by decide)⟩

end FieldKind

end RecordTables
