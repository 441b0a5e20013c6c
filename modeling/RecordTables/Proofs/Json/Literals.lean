import Mathlib.Data.List.TakeWhile
import RecordTables.Json.Text
import RecordTables.Proofs.Decimal.Digits
import RecordTables.Proofs.Json.Lexing

/-! A written string and a written whole number are one lexical element each, which holds what was written. -/

namespace RecordTables

namespace JsonToken

/-- Two hexadecimal digits of a control character name its code. -/
theorem hexNumber?_control : ∀ code : Fin 32, Floating.hexNumber?
    ['0', '0', Json.hexDigit (code.val / 16), Json.hexDigit (code.val % 16)] = some code.val := by
  decide

/-- A written character is read back. -/
theorem spells_characterText (character : Char) :
    Spells (.character character) (Json.characterText character) := by
  -- Seven characters have escapes of one letter, and the other control characters their codes.
  unfold Json.characterText
  iterate 7
    split
    · subst character
      exact spells_short rfl
  split
  · rename_i control
    have unit : StringUnit.ofCode character.toNat = .character character := by
      rw [StringUnit.ofCode, if_neg (by omega), if_neg (by omega), Char.ofNat_toNat]
    exact unit ▸ spells_code (hexNumber?_control ⟨character.toNat, control⟩)
  · rename_i quote backslash _ _ _ _ _ visible
    exact spells_plain quote backslash visible

/-- A written text spells its characters up to the closing quote. -/
theorem spelled_flatMap (characters after : List Char) :
    Spelled (characters.map .character) (characters.flatMap Json.characterText ++ '"' :: after)
      after := by
  -- Each character is spelled for itself, and what is spelled does not depend on what follows.
  induction characters with
  | nil => exact .closed after
  | cons character rest ih =>
    rw [List.flatMap_cons, List.append_assoc]
    exact .unit (spells_characterText character) ih

/-- Characters alone have a text. -/
theorem joinUnits_characters (characters : List Char) :
    joinUnits (characters.map .character) = some characters := by
  induction characters with
  | nil => rfl
  | cons character rest ih => simp [joinUnits, ih]

/-- A written string is one element. -/
theorem tokens?_stringText (text : String) :
    tokens? (Json.stringText text) = some [.string (some text)] := by
  -- The characters are spelled one by one, and nothing is left behind the closing quote.
  have units := (spelled_flatMap text.toList []).reads []
  simp only [List.append_nil] at units
  have read : readFrom? '"' (text.toList.flatMap Json.characterText ++ ['"']) =
      some (.string (some text), []) := by
    show (readString? _).map _ = _
    rw [readString?, units]
    simp [joinUnits_characters]
  exact tokens?_cons rfl read

/-- The digits of a whole number as numbers. -/
def digitsOf (value : Nat) : List Nat :=
  (Decimal.natText value).map fun digit => digit.toNat - '0'.toNat

/-- The digits of a whole number are all of its text. -/
theorem readDigits_natText (value : Nat) :
    readDigits (Decimal.natText value) = (digitsOf value, []) := by
  -- Every character of the text is a digit, so that the run of digits is all of it.
  have digits : ∀ digit ∈ Decimal.natText value, Timestamp.isDigit digit = true :=
    fun _ member => Decimal.isDigit_natText member
  rw [readDigits, List.takeWhile_eq_self_iff.mpr digits, List.dropWhile_eq_nil_iff.mpr digits, digitsOf]

/-- The digits of a whole number have the number as their value. -/
theorem digitsValue_digitsOf (value : Nat) : Numeral.digitsValue (digitsOf value) = value := by
  rw [digitsOf, Numeral.digitsValue, List.foldl_map]
  exact Decimal.digitsValue_natText value

/-- The digits of a whole number are those of a numeral: only zero starts with a zero. -/
theorem wholeDigits?_digitsOf (value : Nat) : wholeDigits? (digitsOf value) = some (digitsOf value) := by
  rcases Nat.eq_zero_or_pos value with zero | positive
  · subst value
    rfl
  · -- Any other number starts with a digit that does not stand for zero.
    obtain ⟨first, rest, text, nonzero⟩ := Decimal.head_natText positive
    have digit : Timestamp.isDigit first = true :=
      Decimal.isDigit_natText (text ▸ List.mem_cons_self)
    obtain ⟨leading, more⟩ := Nat.exists_eq_succ_of_ne_zero fun zero =>
      nonzero (Decimal.eq_zero_of_isDigit digit zero)
    rw [digitsOf, text, List.map_cons, more]
    rfl

/-- The digits of a whole number are read as a numeral without a point and without an exponent. -/
theorem readNumeral?_natText (negative : Bool) (value : Nat) :
    readNumeral? negative (Decimal.natText value) = some (⟨negative, digitsOf value, none, none⟩, []) := by
  -- The digits go up to the end of the text, where neither a point nor an exponent can begin.
  have whole : readWhole? (Decimal.natText value) = some (digitsOf value, []) := by
    rw [readWhole?_eq, readDigits_natText, wholeDigits?_digitsOf]
    rfl
  rw [readNumeral?, whole]
  rfl

/-- The numeral of a whole number that is in range has the number. -/
theorem number?_digitsOf {value : Int} (lower : -(2 ^ 63) ≤ value) (upper : value < 2 ^ 64) :
    Numeral.number? ⟨decide (value < 0), digitsOf value.natAbs, none, none⟩ =
      some (.whole value lower upper) := by
  have held : JsonNumber.ofInt? value = some (.whole value lower upper) := dif_pos ⟨lower, upper⟩
  unfold Numeral.number? Numeral.isWhole
  simp only [digitsValue_digitsOf]
  -- The bounds of the two kinds of whole numerals are those of the range.
  by_cases negative : value < 0
  · have bounds : (decide (0 < value.natAbs) && decide (value.natAbs ≤ 2 ^ 63)) = true := by
      simp only [Bool.and_eq_true, decide_eq_true_eq]
      omega
    have same : -(value.natAbs : Int) = value := by omega
    simp only [negative, decide_true, Option.isNone_none, Bool.and_self, Bool.not_true, Bool.and_false,
      Bool.false_and, Bool.false_eq_true, if_false, Bool.true_and, bounds, if_true, same, held]
  · have bound : value.natAbs < 2 ^ 64 := by omega
    have same : (value.natAbs : Int) = value := by omega
    simp only [negative, decide_false, Option.isNone_none, Bool.and_self, Bool.not_false, bound,
      decide_true, if_true, same, held]

/-- No digit is a blank. -/
theorem isSpace_digit {first : Char} (digit : Timestamp.isDigit first = true) :
    isSpace first = false := by
  simp only [isSpace, Bool.or_eq_false_iff, beq_eq_false_iff_ne]
  refine ⟨⟨⟨?_, ?_⟩, ?_⟩, ?_⟩ <;> rintro rfl <;> cases digit

/-- A written whole number is one element. -/
theorem tokens?_intText {value : Int} (lower : -(2 ^ 63) ≤ value) (upper : value < 2 ^ 64) :
    tokens? (Decimal.intText value) = some [.number (some (.whole value lower upper))] := by
  have number := number?_digitsOf lower upper
  -- A negative number is read behind its sign, and any other from its first digit on.
  unfold Decimal.intText
  by_cases negative : value < 0
  · rw [if_pos negative]
    rw [decide_eq_true negative] at number
    have read : readFrom? '-' (Decimal.natText value.natAbs) =
        some (.number (some (.whole value lower upper)), []) := by
      show (readNumeral? true _).map _ = _
      rw [readNumeral?_natText, ← number]
      rfl
    exact tokens?_cons rfl read
  · rw [if_neg negative]
    rw [decide_eq_false negative] at number
    -- There is a first digit, and the reader looks at it before it reads the number.
    obtain ⟨first, rest, text⟩ := List.exists_cons_of_ne_nil (Decimal.natText_ne_nil value.natAbs)
    have digit : Timestamp.isDigit first = true := Decimal.isDigit_natText (text ▸ List.mem_cons_self)
    have read : readFrom? first rest = some (.number (some (.whole value lower upper)), []) := by
      rw [readFrom?_digit digit, ← text, readNumeral?_natText, ← number]
      rfl
    rw [text]
    exact tokens?_cons (isSpace_digit digit) read

end JsonToken

end RecordTables
