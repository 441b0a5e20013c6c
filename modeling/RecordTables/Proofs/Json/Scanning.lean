import RecordTables.Json.Token

/-!
Scanners of strings and numerals take a value from the start of a text and leave the rest. They do not look
at what stands behind the text, unless a numeral could go on with it.
-/

namespace RecordTables

namespace JsonToken

/-- Whether a numeral could go on with a character. -/
def continuesNumeral (character : Char) : Bool :=
  Timestamp.isDigit character || character == '.' || character == 'e' || character == 'E'

/-- Whether a text does not go on with a numeral in front of it. -/
def Apart (text : List Char) : Prop := ∀ first ∈ text.head?, continuesNumeral first = false

/--
Whether a scanner leaves no more than it was given, and gives the same value whatever stands behind the text,
as long as that stands apart.
-/
structure Local {α : Type} (scan? : List Char → Option (α × List Char)) : Prop where
  shrinks : ∀ {text value after}, scan? text = some (value, after) → after.length ≤ text.length
  stable : ∀ {text value after rest}, scan? text = some (value, after) → Apart rest →
    scan? (text ++ rest) = some (value, after ++ rest)

namespace Local

variable {α β : Type}

/-- A scanner that takes nothing is local. -/
theorem pure (value : α) : Local fun text => some (value, text) where
  shrinks read := by
    -- Nothing was taken, so as much of the text is left as there was.
    cases read
    exact Nat.le_refl _
  stable read _ := by
    cases read
    rfl

/-- A scanner whose values are changed afterwards is as local as before. -/
theorem map {scan? : List Char → Option (α × List Char)} (localScan : Local scan?) (change : α → β) :
    Local fun text => (scan? text).map fun result => (change result.1, result.2) where
  shrinks read := by
    -- The text that is left is that of the scanner, for only the value was changed.
    obtain ⟨⟨value, after⟩, scanned, same⟩ := Option.map_eq_some_iff.mp read
    cases same
    exact localScan.shrinks scanned
  stable read apart := by
    obtain ⟨⟨value, after⟩, scanned, same⟩ := Option.map_eq_some_iff.mp read
    cases same
    rw [localScan.stable scanned apart]
    rfl

/-- A local scanner behind another one makes a local scanner. -/
theorem bind {scan? : List Char → Option (α × List Char)} {next? : α → List Char → Option (β × List Char)}
    (localScan : Local scan?) (localNext : ∀ value, Local (next? value)) :
    Local fun text => (scan? text).bind fun result => next? result.1 result.2 where
  shrinks read := by
    -- What both leave is no more than what the first leaves.
    obtain ⟨⟨value, between⟩, scanned, rest⟩ := Option.bind_eq_some_iff.mp read
    exact Nat.le_trans ((localNext value).shrinks rest) (localScan.shrinks scanned)
  stable read apart := by
    obtain ⟨⟨value, between⟩, scanned, rest⟩ := Option.bind_eq_some_iff.mp read
    -- With more text behind it the first leaves the same and the addition, where the second goes on.
    rw [localScan.stable scanned apart]
    exact (localNext value).stable rest apart

end Local

/-- Whether characters stand for one unit of a string, whatever comes behind them. -/
structure Spells (unit : StringUnit) (spelling : List Char) : Prop where
  inhabited : 0 < spelling.length
  reads : ∀ rest, readUnits? (spelling ++ rest) =
    (readUnits? rest).map fun result => (unit :: result.1, result.2)

/-- A character that needs no escape stands for itself. -/
theorem spells_plain {value : Char} (inside : value ≠ '"') (plain : value ≠ '\\')
    (visible : ¬ value.toNat < 0x20) : Spells (.character value) [value] where
  inhabited := Nat.zero_lt_succ _
  reads rest := by
    -- The other ways to spell a character begin with a quote or a backslash, and this is neither.
    rw [List.singleton_append, readUnits?]
    · simp only [plain, visible, decide_false, Bool.or_self, Bool.false_eq_true, if_false]
    · exact inside
    · exact fun _ _ _ _ _ escape => absurd escape plain
    · exact fun _ _ escape => absurd escape plain

/-- An escape of one letter stands for the character that it names. -/
theorem spells_short {escape value : Char} (named : shortEscape? escape = some value) :
    Spells (.character value) ['\\', escape] where
  inhabited := Nat.zero_lt_succ _
  reads rest := by
    -- The letter of an escape with a code names no character.
    have other : escape ≠ 'u' := by
      rintro rfl
      cases named
    rw [List.cons_append, List.singleton_append, readUnits?]
    · cases readUnits? rest <;> simp [named]
    · exact fun _ _ _ _ _ code => absurd code other

/-- An escape of four digits stands for the unit with their code. -/
theorem spells_code {first second third fourth : Char} {code : Nat}
    (named : Floating.hexNumber? [first, second, third, fourth] = some code) :
    Spells (.ofCode code) ['\\', 'u', first, second, third, fourth] where
  inhabited := Nat.zero_lt_succ _
  reads rest := by
    show readUnits? ('\\' :: 'u' :: first :: second :: third :: fourth :: rest) = _
    rw [readUnits?]
    cases readUnits? rest <;> simp [named]

/-- A text that spells the units of a string, ends it, and goes on. -/
inductive Spelled : List StringUnit → List Char → List Char → Prop
  | closed (after : List Char) : Spelled [] ('"' :: after) after
  | unit {unit : StringUnit} {spelling rest after : List Char} {others : List StringUnit} :
    Spells unit spelling → Spelled others rest after → Spelled (unit :: others) (spelling ++ rest) after

/-- What is read as a string spells it. -/
theorem spelled_of_readUnits? {text after : List Char} {units : List StringUnit}
    (read : readUnits? text = some (units, after)) : Spelled units text after := by
  -- The induction follows the reader from unit to unit.
  fun_induction readUnits? text generalizing units after with
  | case1 => cases read
  | case2 =>
    cases read
    exact .closed _
  | case3 _ _ _ _ _ code others behind found named ih =>
    cases read
    exact .unit (spells_code named) (ih found)
  | case5 escape rest _ value others behind found named ih =>
    cases read
    exact .unit (spells_short named) (ih found)
  | case7 => cases read
  | case8 value rest inside _ _ allowed ih =>
    simp only [Bool.or_eq_true, decide_eq_true_eq, not_or] at allowed
    obtain ⟨⟨others, behind⟩, found, same⟩ := Option.map_eq_some_iff.mp read
    cases same
    exact .unit (spells_plain inside allowed.1 allowed.2) (ih found)
  | _ => cases read

/-- What spells a string is longer than what stands behind it. -/
theorem Spelled.length_lt {text after : List Char} {units : List StringUnit}
    (spelled : Spelled units text after) : after.length < text.length := by
  -- The quote takes one character, and each unit in front of it takes some.
  induction spelled with
  | closed after => exact Nat.lt_succ_self _
  | unit spells _ ih =>
    have inhabited := spells.inhabited
    rw [List.length_append]
    omega

/-- What spells a string is read as the string, whatever stands behind it. -/
theorem Spelled.reads {text after : List Char} {units : List StringUnit}
    (spelled : Spelled units text after) (rest : List Char) :
    readUnits? (text ++ rest) = some (units, after ++ rest) := by
  -- The spelling of each unit is read alike whatever comes behind it.
  induction spelled with
  | closed after => rfl
  | unit spells _ ih =>
    rw [List.append_assoc, spells.reads, ih]
    rfl

/-- A string is read up to its closing quote. -/
theorem local_readString? : Local readString? :=
  Local.map ⟨fun read => Nat.le_of_lt (spelled_of_readUnits? read).length_lt,
    fun read _ => (spelled_of_readUnits? read).reads _⟩ fun units => (joinUnits units).map String.ofList

/-- Digits are read up to the first character that is none, so not into a text that stands apart. -/
theorem readDigits_append {rest : List Char} (apart : Apart rest) (text : List Char) :
    readDigits (text ++ rest) = ((readDigits text).1, (readDigits text).2 ++ rest) := by
  -- The digits of the text end in it, or are all of it.
  unfold readDigits
  induction text with
  | nil =>
    cases rest with
    | nil => rfl
    | cons first others =>
      have other : Timestamp.isDigit first = false := by
        have clear := apart first rfl
        simp only [continuesNumeral, Bool.or_eq_false_iff] at clear
        exact clear.1.1.1
      simp [other]
  | cons first others ih =>
    by_cases digit : Timestamp.isDigit first = true
    · simp only [List.cons_append, List.takeWhile_cons, List.dropWhile_cons, digit, if_true,
        List.map_cons]
      rw [Prod.mk.injEq] at ih ⊢
      exact ⟨congrArg _ ih.1, ih.2⟩
    · simp [digit]

/-- A scanner is local that makes its value of the digits at the start of a text. -/
theorem Local.of_digits {α : Type} {scan? : List Char → Option (α × List Char)}
    (value? : List Nat → Option α)
    (form : ∀ text, scan? text =
      (value? (readDigits text).1).map fun value => (value, (readDigits text).2)) : Local scan? where
  shrinks read := by
    -- What is left is the text without the digits at its start.
    rw [form] at read
    obtain ⟨value, _, same⟩ := Option.map_eq_some_iff.mp read
    cases same
    exact (List.dropWhile_sublist _).length_le
  stable read apart := by
    rw [form] at read ⊢
    obtain ⟨value, found, same⟩ := Option.map_eq_some_iff.mp read
    cases same
    -- An addition that begins with no digit leaves the run of digits as it is.
    rw [readDigits_append apart, found]
    rfl

/-- The whole digits of a numeral: there are some, and a zero stands alone. -/
def wholeDigits? : List Nat → Option (List Nat)
  | [] => none
  | 0 :: _ :: _ => none
  | digits => some digits

/-- The whole digits of a numeral are those at the start of the text. -/
theorem readWhole?_eq (text : List Char) : readWhole? text =
    (wholeDigits? (readDigits text).1).map fun digits => (digits, (readDigits text).2) := by
  unfold readWhole?
  obtain ⟨digits, after⟩ := readDigits text
  -- Only a zero in front of another digit is refused.
  match digits with
  | [] => rfl
  | [0] => rfl
  | 0 :: _ :: _ => rfl
  | (_ + 1) :: _ => rfl

/-- The whole digits of a numeral are read in place. -/
theorem local_readWhole? : Local readWhole? := .of_digits wholeDigits? readWhole?_eq

/-- What is made of digits, of which there must be some. -/
def someDigits? {α : Type} (value : List Nat → α) : List Nat → Option α
  | [] => none
  | digits => some (value digits)

/-- The exponent that digits stand for. -/
def exponentValue (negative : Bool) (digits : List Nat) : Option Int :=
  let value := Numeral.digitsValue digits
  some (if negative then -(value : Int) else (value : Int))

/-- The digits of an exponent are read in place. -/
theorem local_readExponentDigits? (negative : Bool) : Local (readExponentDigits? negative) := by
  -- It looks at nothing but the digits at the start, of which there has to be one.
  refine .of_digits (someDigits? (exponentValue negative)) fun text => ?_
  unfold readExponentDigits?
  obtain ⟨digits, after⟩ := readDigits text
  cases digits <;> rfl

/-- The digits behind a point. -/
def readPlaces? (text : List Char) : Option (Option (List Nat) × List Char) :=
  match readDigits text with
  | ([], _) => none
  | (digits, after) => some (some digits, after)

/-- The digits behind a point are read in place. -/
theorem local_readPlaces? : Local readPlaces? := by
  -- It looks at nothing but the digits at the start, of which there has to be one.
  refine .of_digits (someDigits? some) fun text => ?_
  unfold readPlaces?
  obtain ⟨digits, after⟩ := readDigits text
  cases digits <;> rfl

/-- A text without a point at its start has no digits behind one. -/
theorem readFraction?_other {text : List Char} (pointless : '.' ∉ text.head?) :
    readFraction? text = some (none, text) := by
  -- A fraction begins with a point and in no other way.
  unfold readFraction?
  split
  · exact absurd rfl pointless
  · rfl

/-- The digits behind a point are read in place, if there is a point. -/
theorem local_readFraction? : Local readFraction? where
  shrinks read := by
    unfold readFraction? at read
    split at read
    · exact Nat.le_succ_of_le (local_readPlaces?.shrinks read)
    · cases read
      exact Nat.le_refl _
  stable {text _ _ rest} read apart := by
    cases text with
    | nil =>
      -- What stands behind does not start with a point, as it stands apart.
      cases read
      refine readFraction?_other fun point => ?_
      cases apart '.' point
    | cons first others =>
      by_cases point : first = '.'
      · subst first
        exact local_readPlaces?.stable read apart
      -- Without a point nothing is read, and what is appended cannot change the first character.
      · have pointless : ∀ behind : List Char, '.' ∉ (first :: behind).head? :=
          fun _ same => point (Option.some.inj same)
        rw [readFraction?_other (pointless others)] at read
        cases read
        exact readFraction?_other (pointless (others ++ rest))

/-- The digits of an exponent behind its sign, if it has one. -/
def readSigned? : List Char → Option (Option Int × List Char)
  | '-' :: digits => readExponentDigits? true digits
  | '+' :: digits => readExponentDigits? false digits
  | digits => readExponentDigits? false digits

/-- The digits of an exponent are read in place behind its sign. -/
theorem local_readSigned? : Local readSigned? where
  shrinks read := by
    -- A sign is one character more than what is read behind it.
    unfold readSigned? at read
    split at read
    · exact Nat.le_succ_of_le ((local_readExponentDigits? true).shrinks read)
    · exact Nat.le_succ_of_le ((local_readExponentDigits? false).shrinks read)
    · exact (local_readExponentDigits? false).shrinks read
  stable {text _ _ rest} read apart := by
    unfold readSigned? at read
    split at read
    · exact (local_readExponentDigits? true).stable read apart
    · exact (local_readExponentDigits? false).stable read apart
    · -- A text without a sign keeps its first character, so there is none when more stands behind it.
      rename_i minus plus
      cases text with
      | nil => cases read
      | cons first others =>
        have unsigned : readSigned? (first :: (others ++ rest)) =
            readExponentDigits? false (first :: (others ++ rest)) := by
          unfold readSigned?
          split
          · rename_i same
            cases same
            exact absurd rfl (minus others)
          · rename_i same
            cases same
            exact absurd rfl (plus others)
          · rfl
        exact unsigned.trans ((local_readExponentDigits? false).stable read apart)

/-- Whether a character announces an exponent. -/
def isMark (mark : Char) : Bool := mark = 'e' || mark = 'E'

/-- Behind the mark of an exponent its digits follow. -/
theorem readExponent?_mark {mark : Char} (marked : isMark mark = true) (rest : List Char) :
    readExponent? (mark :: rest) = readSigned? rest := if_pos marked

/-- A text without the mark of an exponent at its start has no exponent. -/
theorem readExponent?_other {first : Char} (unmarked : isMark first = false) (rest : List Char) :
    readExponent? (first :: rest) = some (none, first :: rest) :=
  if_neg (Bool.not_eq_true _ ▸ unmarked)

/-- An exponent is read in place, if there is one. -/
theorem local_readExponent? : Local readExponent? where
  shrinks {text _ _} read := by
    cases text with
    | nil =>
      cases read
      exact Nat.le_refl _
    | cons first others =>
      cases marked : isMark first with
      | true =>
        -- Behind a mark there is a sign or none, and the digits.
        rw [readExponent?_mark marked] at read
        exact Nat.le_succ_of_le (local_readSigned?.shrinks read)
      | false =>
        rw [readExponent?_other marked] at read
        cases read
        exact Nat.le_refl _
  stable {text _ _ rest} read apart := by
    cases text with
    | nil =>
      cases read
      cases rest with
      | nil => rfl
      | cons first others =>
        -- What stands behind does not start with a mark, as it stands apart.
        have clear := apart first rfl
        simp only [continuesNumeral, Bool.or_eq_false_iff, beq_eq_false_iff_ne] at clear
        have unmarked : isMark first = false := by simp [isMark, clear]
        exact readExponent?_other unmarked others
    | cons first others =>
      cases marked : isMark first with
      | true =>
        rw [readExponent?_mark marked] at read
        exact (readExponent?_mark marked _).trans (local_readSigned?.stable read apart)
      | false =>
        -- What is appended stands behind the first character, which is no mark.
        rw [readExponent?_other marked] at read
        cases read
        exact readExponent?_other marked _

/-- The rest of a numeral behind its whole digits. -/
def readRest? (negative : Bool) (whole : List Nat) (text : List Char) : Option (Numeral × List Char) := do
  let (fraction, text) ← readFraction? text
  let (exponent, text) ← readExponent? text
  return (⟨negative, whole, fraction, exponent⟩, text)

/-- The rest of a numeral is read in place. -/
theorem local_readRest? (negative : Bool) (whole : List Nat) : Local (readRest? negative whole) :=
  local_readFraction?.bind fun fraction => local_readExponent?.bind fun exponent =>
    .pure (Numeral.mk negative whole fraction exponent)

/-- A numeral is read in place. -/
theorem local_readNumeral? (negative : Bool) : Local (readNumeral? negative) :=
  local_readWhole?.bind (local_readRest? negative)

/-- A number is read in place. -/
theorem local_number (negative : Bool) : Local fun text =>
    (readNumeral? negative text).map fun result => (number result.1.number?, result.2) :=
  (local_readNumeral? negative).map fun numeral => number numeral.number?

/-- A numeral starts with a digit, and only less than what is behind it is left. -/
theorem readNumeral?_starts {negative : Bool} {first : Char} {text after : List Char} {numeral : Numeral}
    (read : readNumeral? negative (first :: text) = some (numeral, after)) :
    Timestamp.isDigit first = true ∧ after.length ≤ text.length := by
  obtain ⟨⟨whole, behind⟩, found, next⟩ := Option.bind_eq_some_iff.mp read
  have left : after.length ≤ behind.length := (local_readRest? negative whole).shrinks next
  -- There must be whole digits, and the first character is the first of them.
  unfold readWhole? readDigits at found
  cases digit : Timestamp.isDigit first with
  | false => simp [digit] at found
  | true =>
    refine ⟨rfl, Nat.le_trans left ?_⟩
    have shorter : (text.dropWhile Timestamp.isDigit).length ≤ text.length :=
      (List.dropWhile_sublist _).length_le
    simp only [List.takeWhile_cons, List.dropWhile_cons, digit, if_true] at found
    split at found
    · cases found
    · cases found
    · rename_i same
      cases found
      cases same
      exact shorter

end JsonToken

end RecordTables
