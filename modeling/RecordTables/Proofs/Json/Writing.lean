import RecordTables.Json.Reader
import RecordTables.Proofs.Json.Literals

/-!
The lexical elements of a written document. Of a float it is taken for granted that it is read back from its
text: the reader gathers digits and scales them, which is not exact for every numeral.
-/

namespace RecordTables

namespace Json

mutual

/-- The lexical elements of a document. -/
def tokens : Json → List JsonToken
  | .null => [.null]
  | .boolean value => [.boolean value]
  | .number value => [.number (some value)]
  | .string value => [.string (some value)]
  | .array [] => [.openArray, .closeArray]
  | .array (item :: rest) => .openArray :: (item.tokens ++ itemsTokens rest ++ [.closeArray])
  | .object [] => [.openObject, .closeObject]
  | .object ((name, value) :: rest) =>
    .openObject :: .string (some name) :: .colon ::
      (value.tokens ++ membersTokens rest ++ [.closeObject])

/-- The lexical elements of further items, a comma before each. -/
def itemsTokens : List Json → List JsonToken
  | [] => []
  | item :: rest => .comma :: (item.tokens ++ itemsTokens rest)

/-- The lexical elements of further members, a comma before each. -/
def membersTokens : List (String × Json) → List JsonToken
  | [] => []
  | (name, value) :: rest =>
    .comma :: .string (some name) :: .colon :: (value.tokens ++ membersTokens rest)

end

end Json

/-- The document of a finite number is the number. -/
theorem Json.ofDouble_of_finite {value : Double} (finite : value.isFinite = true) :
    Json.ofDouble value = .number (.real value finite) := by
  rw [Json.ofDouble, JsonNumber.ofDouble?, dif_pos finite]

namespace Double

/-- Whether the number is read back from its text as what it is. -/
def ReadsBack (value : Double) : Prop :=
  Json.read? (Json.ofDouble value).render = some (Json.ofDouble value)

/-- A written number starts with a minus sign or a digit. -/
theorem text_starts {value : Double} (finite : value.isFinite = true) :
    ∃ first rest, value.text = first :: rest ∧ (first = '-' ∨ Timestamp.isDigit first = true) := by
  -- Without its sign it is digits, or digits with a point in front of, among or behind them.
  have unsigned : ∀ decimal : Decimal, ∃ first rest, decimal.text = first :: rest ∧
      Timestamp.isDigit first = true := by
    intro decimal
    obtain ⟨first, rest, same⟩ := List.exists_cons_of_ne_nil (Decimal.natText_ne_nil decimal.digits)
    have digit : Timestamp.isDigit first = true :=
      Decimal.isDigit_natText (same ▸ List.mem_cons_self)
    unfold Decimal.text
    simp only [same]
    split
    -- In front of the digits there is a zero, or some of them are left of the point, or all.
    · unfold Decimal.positional
      split
      · exact ⟨_, _, rfl, rfl⟩
      split
      · exact ⟨_, _, rfl, digit⟩
      · rename_i positive _
        obtain ⟨count, more⟩ : ∃ count, ((first :: rest).length + decimal.exponent).toNat = count + 1 :=
          ⟨_, (Nat.succ_pred_eq_of_pos (by omega)).symm⟩
        rw [more]
        exact ⟨_, _, rfl, digit⟩
    · exact ⟨_, _, rfl, digit⟩
  cases value with
  | nan => cases finite
  | number negative magnitude bounded =>
    unfold text
    cases negative with
    -- The minus sign comes first, and without one the digits do.
    | true => exact ⟨_, _, rfl, .inl rfl⟩
    | false =>
      simp only [Bool.false_eq_true, if_false, List.nil_append]
      split
      · exact ⟨_, _, rfl, .inr rfl⟩
      · obtain ⟨first, rest, same, digit⟩ := unsigned (Decimal.shortest magnitude)
        exact ⟨first, rest, same, .inr digit⟩

end Double

namespace JsonToken

/-- An element that starts with a minus sign or a digit is a number. -/
theorem number_of_readFrom? {first : Char} {text after : List Char} {token : JsonToken}
    (starts : first = '-' ∨ Timestamp.isDigit first = true)
    (read : readFrom? first text = some (token, after)) : ∃ value, token = .number value := by
  -- Behind a minus sign and behind a digit the reader only looks for a number.
  rcases starts with rfl | digit
  · obtain ⟨result, _, same⟩ := Option.map_eq_some_iff.mp read
    cases same
    exact ⟨_, rfl⟩
  · rw [readFrom?_digit digit] at read
    obtain ⟨result, _, same⟩ := Option.map_eq_some_iff.mp read
    cases same
    exact ⟨_, rfl⟩

/-- A number that is read back is one element. -/
theorem tokens?_of_readsBack {value : Double} (finite : value.isFinite = true)
    (readsBack : value.ReadsBack) :
    tokens? value.text = some [.number (some (.real value finite))] := by
  -- The text starts as a number does, so its first element is a number.
  obtain ⟨first, rest, text, starts⟩ := Double.text_starts finite
  rw [Double.ReadsBack, Json.ofDouble_of_finite finite] at readsBack
  obtain ⟨written, readWritten, held⟩ := Option.bind_eq_some_iff.mp readsBack
  obtain ⟨elements, read, delivered⟩ := Option.bind_eq_some_iff.mp readWritten
  obtain ⟨progress, taken, finished⟩ := Option.bind_eq_some_iff.mp delivered
  have characters : (Json.number (.real value finite)).render.toList = first :: rest :=
    String.toList_ofList.trans text
  rw [characters] at read
  have solid : isSpace first = false := by
    rcases starts with rfl | digit
    · rfl
    · exact isSpace_digit digit
  obtain ⟨token, after, others, found, behind, rfl⟩ := tokens?_cons_cases solid read
  obtain ⟨number, rfl⟩ := number_of_readFrom? starts found
  -- Nothing can follow a number that is the whole text.
  cases others with
  | cons next others => cases taken
  | nil =>
    cases taken
    cases finished
    obtain ⟨same, equal, inner⟩ := Option.map_eq_some_iff.mp held
    cases inner
    cases equal
    rw [text, read]

/-- A bracket, a comma or a colon is one element, whatever stands behind it. -/
theorem tokens?_mark {mark : Char} {token : JsonToken} {rest : List Char} {others : List JsonToken}
    (sole : readFrom? mark rest = some (token, rest)) (solid : isSpace mark = false)
    (behind : tokens? rest = some others) : tokens? (mark :: rest) = some (token :: others) := by
  rw [tokens?_cons solid sole, behind]
  rfl

/-- The elements of a text and of one that stands apart behind it come one after the other. -/
theorem tokens?_join {text rest : List Char} {elements others : List JsonToken}
    (read : tokens? text = some elements) (behind : tokens? rest = some others) (apart : Apart rest) :
    tokens? (text ++ rest) = some (elements ++ others) := by
  rw [tokens?_append read apart, behind]
  rfl

/-- The elements of a member are its name, a colon and those of its value. -/
theorem tokens?_member (name : String) {text : List Char} {elements : List JsonToken}
    (value : tokens? text = some elements) :
    tokens? (Json.stringText name ++ ':' :: text) = some (.string (some name) :: .colon :: elements) :=
  tokens?_join (tokens?_stringText name) (tokens?_mark rfl rfl value)
    fun _ same => Option.some.inj same ▸ rfl

end JsonToken

namespace Json

mutual

/-- Whether every float in a document is read back from its text as what it is. -/
def FloatsReadBack : Json → Prop
  | .number (.real value _) => value.ReadsBack
  | .array items => ItemsReadBack items
  | .object members => MembersReadBack members
  | _ => True

/-- Whether every float in the items is read back. -/
def ItemsReadBack : List Json → Prop
  | [] => True
  | item :: rest => item.FloatsReadBack ∧ ItemsReadBack rest

/-- Whether every float in the values of the members is read back. -/
def MembersReadBack : List (String × Json) → Prop
  | [] => True
  | (_, value) :: rest => value.FloatsReadBack ∧ MembersReadBack rest

end

open JsonToken

/-- Further items stand apart from the one in front of them. -/
theorem apart_itemsText (items : List Json) : Apart (itemsText items) := by
  -- Behind an item stands a comma or the end, and neither goes on with a numeral.
  cases items with
  | nil => exact fun _ none => nomatch none
  | cons item rest => exact fun _ same => Option.some.inj same ▸ rfl

/-- Further members stand apart from the one in front of them. -/
theorem apart_membersText (members : List (String × Json)) : Apart (membersText members) := by
  -- As for items.
  cases members with
  | nil => exact fun _ none => nomatch none
  | cons member rest => exact fun _ same => Option.some.inj same ▸ rfl

/-- The end of an array or an object stands apart. -/
theorem apart_close {close : Char} (other : continuesNumeral close = false) : Apart [close] :=
  fun _ same => Option.some.inj same ▸ other

mutual

/-- The text of a document has the elements of the document. -/
theorem tokens?_text : ∀ {document : Json}, document.FloatsReadBack →
    tokens? document.text = some document.tokens
  | .null, _ => rfl
  | .boolean true, _ => rfl
  | .boolean false, _ => rfl
  | .number (.whole _ lower upper), _ => tokens?_intText lower upper
  | .number (.real _ finite), readsBack => tokens?_of_readsBack finite readsBack
  | .string value, _ => tokens?_stringText value
  | .array [], _ => rfl
  | .array (item :: rest), readBack => by
    have items := tokens?_join (tokens?_text readBack.1) (tokens?_itemsText readBack.2)
      (apart_itemsText rest)
    rw [text, tokens, List.cons_append, List.cons_append]
    exact tokens?_mark rfl rfl (tokens?_join items rfl (apart_close rfl))
  | .object [], _ => rfl
  | .object ((name, value) :: rest), readBack => by
    have values := tokens?_join (tokens?_text readBack.1) (tokens?_membersText readBack.2)
      (apart_membersText rest)
    have shape : (object ((name, value) :: rest)).text = '\x7b' :: (stringText name ++
        ':' :: (value.text ++ membersText rest ++ ['\x7d'])) := by simp [text]
    rw [shape, tokens]
    exact tokens?_mark rfl rfl (tokens?_member name (tokens?_join values rfl (apart_close rfl)))

/-- The text of further items has the elements of the items. -/
theorem tokens?_itemsText : ∀ {items : List Json}, ItemsReadBack items →
    tokens? (itemsText items) = some (itemsTokens items)
  | [], _ => rfl
  | _ :: rest, readBack =>
    tokens?_mark rfl rfl (tokens?_join (tokens?_text readBack.1) (tokens?_itemsText readBack.2)
      (apart_itemsText rest))

/-- The text of further members has the elements of the members. -/
theorem tokens?_membersText : ∀ {members : List (String × Json)}, MembersReadBack members →
    tokens? (membersText members) = some (membersTokens members)
  | [], _ => rfl
  | (name, value) :: rest, readBack => by
    have values := tokens?_join (tokens?_text readBack.1) (tokens?_membersText readBack.2)
      (apart_membersText rest)
    have shape : membersText ((name, value) :: rest) =
        ',' :: (stringText name ++ ':' :: (value.text ++ membersText rest)) := by simp [membersText]
    rw [shape, membersTokens]
    exact tokens?_mark rfl rfl (tokens?_member name values)

end

end Json

end RecordTables
