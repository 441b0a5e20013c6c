import RecordTables.Proofs.Statement.Names
import RecordTables.Proofs.Statement.SelectText

/-! Every statement that selects records is read back from its text as what it says. -/

namespace RecordTables

namespace Statement

/-- A text that continues neither a quoted name, nor a table reference, nor a number. -/
def Delimits (text : List Char) : Prop :=
  ∀ character ∈ text.head?, character ≠ '"' ∧ character ≠ '.' ∧ character.isDigit = false

/-- A text that is empty or begins with one of some keywords. -/
def Opens (keywords : List String) (text : List Char) : Prop :=
  text = [] ∨ ∃ keyword ∈ keywords, ∃ rest, text = keyword.toList ++ rest

/-- A text delimits if it begins with a character that does. -/
theorem delimits_append {start : String} (rest : List Char) {first : Char}
    (begins : start.toList.head? = some first)
    (other : first ≠ '"' ∧ first ≠ '.' ∧ first.isDigit = false) : Delimits (start.toList ++ rest) := by
  -- Only the first character counts, and it is that of the start.
  intro character member
  rw [List.head?_append, begins] at member
  simp only [Option.some_or, Option.mem_def, Option.some.injEq] at member
  exact member ▸ other

/-- A text that opens with keywords delimits if all keywords begin with a blank. -/
theorem Opens.delimits {keywords : List String} {text : List Char} (opens : Opens keywords text)
    (blanks : ∀ keyword ∈ keywords, keyword.toList.head? = some ' ') : Delimits text := by
  -- A text that opens with a keyword begins with its blank.
  rcases opens with rfl | ⟨keyword, member, rest, rfl⟩
  · intro character impossible
    simp at impossible
  · exact delimits_append rest (blanks keyword member) (by decide)

/-- A keyword is not found where only others open. -/
theorem Opens.after?_none {keywords : List String} {text : List Char} {start : String}
    (opens : Opens keywords text) (inhabited : start.toList ≠ [])
    (apart : ∀ keyword ∈ keywords,
      ¬ start.toList <+: keyword.toList ∧ ¬ keyword.toList <+: start.toList) :
    after? start text = none := by
  -- The keywords that may stand there are all others.
  rcases opens with rfl | ⟨keyword, member, rest, rfl⟩
  · exact after?_nil inhabited
  · exact after?_other rest (apart keyword member).1 (apart keyword member).2

/-- A part that may be missing, and what follows it, open with the keywords of both. -/
theorem Opens.append {keywords others : List String} {part tail : List Char}
    (first : Opens keywords part) (second : Opens others tail) :
    Opens (keywords ++ others) (part ++ tail) := by
  -- If the first part is missing, the second one opens the text.
  rcases first with rfl | ⟨keyword, member, rest, rfl⟩
  · rcases second with rfl | ⟨keyword, member, rest, rfl⟩
    · exact Or.inl rfl
    · exact Or.inr ⟨keyword, List.mem_append_right _ member, rest, rfl⟩
  · exact Or.inr ⟨keyword, List.mem_append_left _ member, rest ++ tail, List.append_assoc _ _ _⟩

/-- A quoted name is read back from a text that delimits behind it. -/
theorem unquote?_delimited (name : String) {tail : List Char} (delimits : Delimits tail) :
    Identifier.unquote? ((Identifier.quote name).toList ++ tail) = some (name, tail) :=
  Identifier.unquote?_quote name fun quote => (delimits '"' quote).1 rfl

/-- A table reference is read back from a text that delimits behind it. -/
theorem readReference?_delimited (schema : Option String) (name : String) {tail : List Char}
    (delimits : Delimits tail) :
    readReference? ((Table.qualify schema name).toList ++ tail) = some (schema, name, tail) :=
  readReference?_qualify schema name (fun quote => (delimits '"' quote).1 rfl)
    fun point => (delimits '.' point).2.1 rfl

/-- A number is read back from its digits. -/
theorem readNumber?_natText (number : Nat) {rest : List Char} (delimits : Delimits rest) :
    readNumber? (Decimal.natText number ++ rest) = some (number, rest) := by
  -- The digits end where the text delimits.
  have digits : ∀ character ∈ Decimal.natText number, character.isDigit = true :=
    fun character member => Nat.isDigit_of_mem_toDigits (by decide) (by decide) member
  have stop : rest.takeWhile Char.isDigit = [] ∧ rest.dropWhile Char.isDigit = rest := by
    cases rest with
    | nil => exact ⟨rfl, rfl⟩
    | cons character others =>
      have other : character.isDigit = false := (delimits character rfl).2.2
      simp [other]
  have taken : (Decimal.natText number ++ rest).takeWhile Char.isDigit = Decimal.natText number := by
    rw [List.takeWhile_append_of_pos digits, stop.1, List.append_nil]
  have dropped : (Decimal.natText number ++ rest).dropWhile Char.isDigit = rest := by
    rw [List.dropWhile_append_of_pos digits, stop.2]
  unfold readNumber?
  rw [taken, dropped]
  -- The digits of a number are never none.
  cases found : Decimal.natText number with
  | nil => exact absurd found Nat.toDigits_ne_nil
  | cons first others =>
    simp only [← found, Decimal.natText, Nat.ofDigitChars_ten_toDigits]

section Separated

variable {α : Type} {item : List Char → Option (α × List Char)} {print : α → String}
  {separator : String}

/--
Items between separators are read back, if each item is read back from a text that delimits, and the
separator delimits but does not follow the last item.
-/
theorem readSeparated?_joinWith (positive : separator.toList ≠ [])
    (separated : ∀ rest, Delimits (separator.toList ++ rest)) {tail : List Char}
    (ended : Delimits tail) (last : after? separator tail = none) {first : α} {others : List α}
    (reads : ∀ value ∈ first :: others, ∀ rest, Delimits rest →
      item ((print value).toList ++ rest) = some (value, rest)) :
    readSeparated? item separator
      ((Text.joinWith separator ((first :: others).map print)).toList ++ tail) =
        some (first :: others, tail) := by
  -- One item is read off, and with a separator behind it all others follow.
  induction others generalizing first with
  | nil =>
    simp only [List.map_cons, List.map_nil, Text.joinWith]
    rw [readSeparated?, reads first List.mem_cons_self tail ended]
    simp only [last]
  | cons second others ih =>
    have later := ih fun value member => reads value (List.mem_cons_of_mem _ member)
    have text : (Text.joinWith separator ((first :: second :: others).map print)).toList ++ tail =
        (print first).toList ++ (separator.toList ++
          ((Text.joinWith separator ((second :: others).map print)).toList ++ tail)) := by
      simp only [List.map_cons, Text.joinWith, String.toList_append, List.append_assoc]
    rw [text, readSeparated?, reads first List.mem_cons_self _ (separated _)]
    have longer : 0 < separator.toList.length := List.length_pos_iff.mpr positive
    -- The reader goes on only where the text gets shorter, as it does with each separator.
    have shorter : ((Text.joinWith separator ((second :: others).map print)).toList ++ tail).length <
        ((print first).toList ++ (separator.toList ++
          ((Text.joinWith separator ((second :: others).map print)).toList ++ tail))).length := by
      simp only [List.length_append]
      omega
    simp only [after?_append, if_pos shorter, later, Option.map_some]

end Separated

/-- An optional part is empty or opens with its keyword. -/
theorem opens_optionalPart (keyword : String) (part : Option String) :
    Opens [keyword] (optionalPart keyword part).toList := by
  -- A part is missing, or its keyword comes first.
  cases part with
  | none => exact Or.inl rfl
  | some text =>
    exact Or.inr ⟨keyword, List.mem_singleton_self _, text.toList, String.toList_append⟩

/-- An optional part is read back, if its keyword does not open what follows when it is missing. -/
theorem readOptional?_optionalPart {α : Type} {item : List Char → Option (α × List Char)}
    {keyword : String} {print : α → String} {tail : List Char} {part : Option α}
    (absent : after? keyword tail = none)
    (reads : ∀ value ∈ part, item ((print value).toList ++ tail) = some (value, tail)) :
    readOptional? keyword item ((optionalPart keyword (part.map print)).toList ++ tail) =
      some (part, tail) := by
  -- The keyword tells whether the part is there.
  cases part with
  | none => simp [optionalPart, readOptional?, absent]
  | some value =>
    simp only [Option.map_some, optionalPart, String.toList_append, List.append_assoc,
      readOptional?, after?_append, reads value rfl]

/-- No spelling of a comparison is found where another one stands. -/
theorem after?_otherComparison {other comparison : Comparison} (different : other ≠ comparison)
    (rest : List Char) :
    after? (" " ++ other.sql ++ " $") ((" " ++ comparison.sql ++ " $").toList ++ rest) = none := by
  -- Of two different spellings neither begins the other.
  have apart : ∀ first second : Comparison, first ≠ second →
      ¬ (" " ++ first.sql ++ " $").toList <+: (" " ++ second.sql ++ " $").toList := by
    intro first second
    cases first <;> cases second <;> decide
  exact after?_other rest (apart other comparison different) (apart comparison other different.symm)

/-- A comparison with a placeholder is read back behind the name of its column. -/
theorem readComparison?_placeholder (comparison : Comparison) (number : Nat) {rest : List Char}
    (delimits : Delimits rest) :
    readComparison? ((" " ++ comparison.sql ++ " ").toList ++
      ((placeholder number).toList ++ rest)) = some (comparison, number, rest) := by
  -- Of the four spellings only the one that stands there is found.
  have spelled : (" " ++ comparison.sql ++ " ").toList ++ ((placeholder number).toList ++ rest) =
      (" " ++ comparison.sql ++ " $").toList ++ (Decimal.natText number ++ rest) := by
    simp [placeholder]
  have listed : comparison ∈ comparisons := by cases comparison <;> decide
  rw [spelled]
  refine findSome?_of_passed listed ?_ ?_
  · rw [after?_append, Option.bind_some, readNumber?_natText number delimits, Option.map_some]
  · intro other _ different
    rw [after?_otherComparison different, Option.bind_none]

/-- A clause is read back from its text. -/
theorem readClause?_sql (clause : ClauseText) {rest : List Char} (delimits : Delimits rest) :
    readClause? (clause.sql.toList ++ rest) = some (clause, rest) := by
  -- The name ends before the blank that begins whatever follows it.
  cases clause with
  | null column negated =>
    cases negated with
    | false =>
      have named : Identifier.unquote? ((Identifier.quote column).toList ++
          (" IS NULL".toList ++ rest)) = some (column, " IS NULL".toList ++ rest) :=
        Identifier.unquote?_quote column (by simp)
      simp only [ClauseText.sql, Bool.false_eq_true, if_false, String.toList_append,
        List.append_assoc, readClause?, named, after?_append]
    | true =>
      have named : Identifier.unquote? ((Identifier.quote column).toList ++
          (" IS NOT NULL".toList ++ rest)) = some (column, " IS NOT NULL".toList ++ rest) :=
        Identifier.unquote?_quote column (by simp)
      -- The first word that is looked for is not the one that stands there, which is seen at
      -- its first difference.
      have notNull : after? " IS NULL" (" IS NOT NULL".toList ++ rest) = none :=
        after?_other rest (by decide) (by decide)
      simp only [ClauseText.sql, if_true, String.toList_append, List.append_assoc, readClause?,
        named, notNull, after?_append]
  | compare column comparison number =>
    have named : Identifier.unquote? ((Identifier.quote column).toList ++
        ((" " ++ comparison.sql ++ " ").toList ++ ((placeholder number).toList ++ rest))) =
        some (column, (" " ++ comparison.sql ++ " ").toList ++
          ((placeholder number).toList ++ rest)) :=
      Identifier.unquote?_quote column (by simp)
    have text : (ClauseText.compare column comparison number).sql.toList ++ rest =
        (Identifier.quote column).toList ++
          ((" " ++ comparison.sql ++ " ").toList ++ ((placeholder number).toList ++ rest)) := by
      simp [ClauseText.sql, valueClause]
    -- Behind the name stands a sign, where a test for null would have a word.
    have tested : ∀ word ∈ [" IS NULL", " IS NOT NULL"], after? word
        ((" " ++ comparison.sql ++ " ").toList ++ ((placeholder number).toList ++ rest)) = none := by
      intro word member
      refine after?_other _ ?_ ?_
      · revert word
        cases comparison <;> decide
      · revert word
        cases comparison <;> decide
    rw [text]
    simp only [readClause?, named, tested " IS NULL" (by simp), tested " IS NOT NULL" (by simp),
      readComparison?_placeholder comparison number delimits, Option.map_some]

/-- An order is read back with its direction. -/
theorem readOrder?_orderText (order : String × Bool) (rest : List Char) :
    readOrder? ((orderText order).toList ++ rest) = some (order, rest) := by
  -- The name ends before the blank that begins the direction.
  obtain ⟨column, descending⟩ := order
  cases descending with
  | true =>
    have named : Identifier.unquote? ((Identifier.quote column).toList ++ (" DESC".toList ++ rest)) =
        some (column, " DESC".toList ++ rest) := Identifier.unquote?_quote column (by simp)
    simp only [orderText, if_true, String.toList_append, List.append_assoc, readOrder?, named,
      after?_append]
  | false =>
    have named : Identifier.unquote? ((Identifier.quote column).toList ++ (" ASC".toList ++ rest)) =
        some (column, " ASC".toList ++ rest) := Identifier.unquote?_quote column (by simp)
    have other : after? " DESC" (" ASC".toList ++ rest) = none :=
      after?_other rest (by decide) (by decide)
    simp only [orderText, Bool.false_eq_true, if_false, String.toList_append, List.append_assoc,
      readOrder?, named, other, after?_append, Option.map_some]

/-- The names of columns are read back from their list, if the text that follows does not continue it. -/
theorem readColumns?_joinWith (columns : List String) {tail : List Char} (delimits : Delimits tail)
    (ended : after? ", " tail = none) :
    readColumns? ((Text.joinWith ", " (columns.map Identifier.quote)).toList ++ tail) =
      some (columns, tail) := by
  -- A quote tells whether there is a first name.
  cases columns with
  | nil =>
    have other : tail.head? ≠ some '"' := fun quote => (delimits '"' quote).1 rfl
    unfold readColumns?
    exact if_neg other
  | cons column others =>
    have begins : ((Text.joinWith ", " ((column :: others).map Identifier.quote)).toList ++
        tail).head? = some '"' := by
      cases others <;> simp [Text.joinWith, Identifier.quote]
    unfold readColumns?
    rw [if_pos begins]
    refine readSeparated?_joinWith (by decide) ?_ delimits ended ?_
    · exact fun next => delimits_append next rfl (by decide)
    · exact fun name _ next following => unquote?_delimited name following

/-- A condition is read back as its clauses, and a missing one as no clauses. -/
theorem readCondition?_conditionText {tail : List Char} (delimits : Delimits tail)
    (absent : after? " WHERE " tail = none) (ended : after? conjunction tail = none)
    (clauses : List ClauseText) :
    readOptional? " WHERE " (readSeparated? readClause? conjunction)
      ((optionalPart " WHERE " ((conditionClauses? clauses).map conditionText)).toList ++ tail) =
        some (conditionClauses? clauses, tail) := by
  -- A condition that is there has a first clause.
  refine readOptional?_optionalPart absent ?_
  intro given member
  cases clauses with
  | nil => simp [conditionClauses?] at member
  | cons clause others =>
    simp only [conditionClauses?, List.isEmpty_cons, Bool.false_eq_true, if_false, Option.mem_def,
      Option.some.injEq] at member
    subst given
    refine readSeparated?_joinWith (by decide) ?_ delimits ended ?_
    · exact fun next => delimits_append next rfl (by decide)
    · exact fun clause _ next following => readClause?_sql clause following

/-- The size of a window is read back from its digits. -/
theorem readWindow?_numberText {keyword : String} {tail : List Char} (delimits : Delimits tail)
    (absent : after? keyword tail = none) (size : Option Nat) :
    readOptional? keyword readNumber? ((optionalPart keyword (size.map numberText)).toList ++ tail) =
      some (size, tail) := by
  -- The digits of the number are all there is to the part.
  refine readOptional?_optionalPart absent ?_
  intro number _
  rw [numberText, String.toList_ofList]
  exact readNumber?_natText number delimits

/-- Every statement that selects records is read back from its text as what it says. -/
theorem readSelect?_sql (text : SelectText) : readSelect? text.sql = some text := by
  obtain ⟨columns, schema, table, clauses, order, limit, offset⟩ := text
  -- Each optional part is followed by parts that open with other keywords.
  have offsetOpens := opens_optionalPart " OFFSET " (offset.map numberText)
  have limitOpens := (opens_optionalPart " LIMIT " (limit.map numberText)).append offsetOpens
  have orderOpens := (opens_optionalPart " ORDER BY " (order.map orderText)).append limitOpens
  have whereOpens := (opens_optionalPart " WHERE "
    ((conditionClauses? clauses).map conditionText)).append orderOpens
  have afterReference := whereOpens.delimits (by decide)
  have keyword : ∀ rest, Delimits (" FROM ".toList ++ rest) :=
    fun rest => delimits_append rest rfl (by decide)
  have columnsRead := fun rest => readColumns?_joinWith columns (keyword rest)
    (after?_other rest (by decide) (by decide))
  have referenceRead := readReference?_qualify schema table
    (fun quote => (afterReference '"' quote).1 rfl) (fun point => (afterReference '.' point).2.1 rfl)
  have conditionRead := readCondition?_conditionText (orderOpens.delimits (by decide))
    (orderOpens.after?_none (by decide) (by decide)) (orderOpens.after?_none (by decide) (by decide))
    clauses
  -- A part that was left out is recognised by the keyword of a later one, or by the end.
  have orderAbsent : after? " ORDER BY " _ = none :=
    limitOpens.after?_none (by decide) (by decide)
  have orderRead : readOptional? " ORDER BY " readOrder?
      ((optionalPart " ORDER BY " (order.map orderText)).toList ++ _) = some (order, _) :=
    readOptional?_optionalPart orderAbsent fun order _ => readOrder?_orderText order _
  have limitAbsent : after? " LIMIT " _ = none := offsetOpens.after?_none (by decide) (by decide)
  have limitRead := readWindow?_numberText (offsetOpens.delimits (by decide)) limitAbsent limit
  have endDelimits : Delimits [] := fun _ impossible => by simp at impossible
  have offsetAbsent : after? " OFFSET " [] = none := after?_nil (by decide)
  have offsetRead := readWindow?_numberText endDelimits offsetAbsent offset
  rw [List.append_nil] at offsetRead
  have given : (conditionClauses? clauses).getD [] = clauses := by
    cases clauses <;> rfl
  simp only [SelectText.sql, String.toList_append, List.append_assoc, readSelect?, after?_append,
    columnsRead, referenceRead, conditionRead, orderRead, limitRead, offsetRead,
    Option.bind_eq_bind, Option.bind_some, List.isEmpty_nil, if_true, given, Option.pure_def]

end Statement

end RecordTables
