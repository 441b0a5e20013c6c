import RecordTables.Statement.ColumnText
import RecordTables.Table

/-! Quoted names and table references are read back from any text that they stand at the start of. -/

namespace RecordTables

namespace Identifier

/-- A character other than a quote stands for itself. -/
theorem scanQuoted?_cons {character : Char} (other : character ≠ '"') (rest : List Char) :
    scanQuoted? (character :: rest) =
      (scanQuoted? rest).map fun (name, after) => (character :: name, after) := by
  -- Only a quote could be the end of the name or the first of a pair.
  rw [scanQuoted?]
  · rintro next rfl
    exact absurd rfl other
  · exact other

/-- A name is scanned to its closing quote, which no further quote may follow. -/
theorem scanQuoted?_doubleQuotes (name : List Char) {after : List Char}
    (clear : after.head? ≠ some '"') :
    scanQuoted? (doubleQuotes name ++ '"' :: after) = some (name, after) := by
  -- The induction is on the name, whose end is the first quote that stands alone.
  induction name with
  | nil =>
    cases after with
    | nil => rfl
    | cons character rest =>
      have other : character ≠ '"' := by simpa using clear
      simp [doubleQuotes, scanQuoted?, other]
  | cons character rest ih =>
    unfold doubleQuotes
    by_cases quote : character = '"'
    · -- A quote of the name comes twice, and the pair is read as one.
      subst character
      simp only [if_true, List.cons_append, scanQuoted?, ih, Option.map_some]
    · rw [if_neg quote, List.cons_append, scanQuoted?_cons quote, ih, Option.map_some]

/-- A quoted name is read back whatever it holds, if no quote follows it. -/
theorem unquote?_quote (name : String) {after : List Char} (clear : after.head? ≠ some '"') :
    unquote? ((quote name).toList ++ after) = some (name, after) := by
  simp only [quote, String.toList_ofList, List.cons_append, List.append_assoc, List.nil_append,
    unquote?, scanQuoted?_doubleQuotes name.toList clear, Option.map_some, String.ofList_toList]

/-- What is scanned is a name with every quote doubled, and the closing quote, which no further one follows. -/
theorem eq_of_scanQuoted? {text name after : List Char} (scanned : scanQuoted? text = some (name, after)) :
    text = doubleQuotes name ++ '"' :: after ∧ after.head? ≠ some '"' := by
  -- The induction follows the scan, which looks two characters ahead at every quote.
  induction text using scanQuoted?.induct generalizing name with
  | case1 => cases scanned
  | case2 rest ih =>
    obtain ⟨⟨inner, left⟩, found, same⟩ := Option.map_eq_some_iff.mp scanned
    cases same
    obtain ⟨rfl, clear⟩ := ih found
    exact ⟨rfl, clear⟩
  | case3 rest single =>
    -- A quote that stands alone is the end of the name.
    cases rest with
    | nil =>
      cases scanned
      exact ⟨rfl, nofun⟩
    | cons next others =>
      have other : next ≠ '"' := fun same => single others (same ▸ rfl)
      simp only [scanQuoted?, Option.some.injEq, Prod.mk.injEq] at scanned
      obtain ⟨rfl, rfl⟩ := scanned
      exact ⟨rfl, by simpa using other⟩
  | case4 character rest _ other ih =>
    rw [scanQuoted?_cons other] at scanned
    obtain ⟨⟨inner, left⟩, found, same⟩ := Option.map_eq_some_iff.mp scanned
    cases same
    obtain ⟨rfl, clear⟩ := ih found
    exact ⟨by rw [doubleQuotes, if_neg other]; rfl, clear⟩

/-- A quoted name is read exactly where it stands and no quote follows it. -/
theorem unquote?_eq_some {text after : List Char} {name : String} :
    unquote? text = some (name, after) ↔
      text = (quote name).toList ++ after ∧ after.head? ≠ some '"' := by
  constructor
  -- What was scanned is the name with its quotes doubled, behind an opening quote.
  · intro unquoted
    unfold unquote? at unquoted
    split at unquoted
    · obtain ⟨⟨inner, left⟩, scanned, same⟩ := Option.map_eq_some_iff.mp unquoted
      cases same
      obtain ⟨rfl, clear⟩ := eq_of_scanQuoted? scanned
      refine ⟨?_, clear⟩
      simp [quote]
    · cases unquoted
  · rintro ⟨rfl, clear⟩
    exact unquote?_quote name clear

end Identifier

namespace Statement

/-- What follows an expected start is what stands behind it. -/
theorem after?_append (start : String) (rest : List Char) :
    after? start (start.toList ++ rest) = some rest := by
  -- A start is a prefix of what it stands at the start of.
  have begins : start.toList.isPrefixOf (start.toList ++ rest) = true :=
    List.isPrefixOf_iff_prefix.mpr (List.prefix_append _ _)
  simp [after?, begins]

/-- What is found behind an expected start follows it in the text. -/
theorem eq_of_after? {start : String} {text rest : List Char} (found : after? start text = some rest) :
    text = start.toList ++ rest := by
  -- The start was found in front of the text, and what is behind it is left.
  unfold after? at found
  split at found
  · rename_i begins
    cases found
    obtain ⟨behind, rfl⟩ := List.isPrefixOf_iff_prefix.mp begins
    rw [List.drop_left]
  · cases found

/-- A text with another start, of which neither begins the other, has nothing behind the expected one. -/
theorem after?_other {start other : String} (rest : List Char)
    (apart : ¬ start.toList <+: other.toList) (apart' : ¬ other.toList <+: start.toList) :
    after? start (other.toList ++ rest) = none := by
  -- Of two prefixes of one text the shorter begins the longer.
  unfold after?
  rw [if_neg]
  intro begins
  have first := List.isPrefixOf_iff_prefix.mp begins
  rcases List.prefix_or_prefix_of_prefix first (List.prefix_append other.toList rest) with one | two
  · exact apart one
  · exact apart' two

/-- Nothing stands behind a start that the text is too short for. -/
theorem after?_nil {start : String} (inhabited : start.toList ≠ []) : after? start [] = none := by
  -- A start of one character at least is no prefix of nothing.
  unfold after?
  cases characters : start.toList with
  | nil => exact absurd characters inhabited
  | cons first others => rfl

/-- The search for a spelling finds the one that stands there, if no other one is found. -/
theorem findSome?_of_passed {α β : Type} {find : α → Option β} {items : List α} {wanted : α}
    {value : β} (member : wanted ∈ items) (found : find wanted = some value)
    (passed : ∀ other ∈ items, other ≠ wanted → find other = none) :
    items.findSome? find = some value := by
  -- The list is cut at the first place of the one wanted.
  obtain ⟨before, behind, rfl, absent⟩ := List.eq_append_cons_of_mem member
  refine List.findSome?_eq_some_iff.mpr ⟨before, wanted, behind, rfl, found, ?_⟩
  intro other earlier
  exact passed other (List.mem_append_left _ earlier) fun same => absent (same ▸ earlier)

/-- A table reference is read back, if neither a quote nor a point follows it. -/
theorem readReference?_qualify (schema : Option String) (name : String) {after : List Char}
    (clear : after.head? ≠ some '"') (ended : after.head? ≠ some '.') :
    readReference? ((Table.qualify schema name).toList ++ after) = some (schema, name, after) := by
  -- What follows the first name tells whether it is the name of a schema.
  unfold Table.qualify
  cases schema with
  | none =>
    unfold readReference?
    rw [Identifier.unquote?_quote name clear]
    -- A point would announce that the name was that of a schema.
    cases after with
    | nil => rfl
    | cons character rest =>
      have other : character ≠ '.' := by simpa using ended
      simp [other]
  | some schema =>
    have point : (".").toList = ['.'] := rfl
    simp only [String.toList_append, point, List.append_assoc, List.cons_append, List.nil_append]
    unfold readReference?
    have first : Identifier.unquote? ((Identifier.quote schema).toList ++
        '.' :: ((Identifier.quote name).toList ++ after)) =
          some (schema, '.' :: ((Identifier.quote name).toList ++ after)) :=
      Identifier.unquote?_quote schema (by simp)
    simp only [first, Identifier.unquote?_quote name clear, Option.map_some]

/-- What is read as a table reference is one. -/
theorem eq_of_readReference? {text after : List Char} {schema : Option String} {name : String}
    (read : readReference? text = some (schema, name, after)) :
    text = (Table.qualify schema name).toList ++ after ∧ after.head? ≠ some '"' := by
  unfold readReference? at read
  split at read
  · cases read
  · -- Behind a point stands the name of the table, and the first name is that of its schema.
    rename_i first rest opened
    obtain ⟨rfl, _⟩ := Identifier.unquote?_eq_some.mp opened
    obtain ⟨⟨second, left⟩, named, same⟩ := Option.map_eq_some_iff.mp read
    cases same
    obtain ⟨rfl, clear⟩ := Identifier.unquote?_eq_some.mp named
    exact ⟨by simp [Table.qualify], clear⟩
  · rename_i first rest _ opened
    cases read
    obtain ⟨rfl, clear⟩ := Identifier.unquote?_eq_some.mp opened
    exact ⟨rfl, clear⟩

end Statement

end RecordTables
