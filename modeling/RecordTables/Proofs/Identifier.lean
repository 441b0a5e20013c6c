import RecordTables.Identifier.Quoted
import RecordTables.Identifier.Validation
import RecordTables.Proofs.Text

/-!
The grammar of names. A name is accepted exactly if it is spelled in small letters, digits and underscores
up to its end, begins with a letter, is short enough, and is no word that is taken, whatever its case. In
such a name there is nothing to double in quotes, and its capitals give it back.
-/

namespace RecordTables

namespace Identifier

/-- The letters a to z. -/
def smallLetters : List Char := "abcdefghijklmnopqrstuvwxyz".toList

/-- The characters behind the first one of a name. -/
def nameCharacters : List Char := smallLetters ++ "0123456789_".toList

/-- Whether two texts are the same but for the case of their letters. -/
def SameButForCase (left right : String) : Prop := Text.lower left.toList = Text.lower right.toList

instance (left right : String) : Decidable (SameButForCase left right) :=
  inferInstanceAs (Decidable (Text.lower left.toList = Text.lower right.toList))

/-- A text that may be a name: how it is spelled, how long it is, and which words it must not be. -/
structure Acceptable (name : String) (reserved : List String) : Prop where
  spelled : ∃ first rest, name.toList = first :: rest ∧ first ∈ smallLetters ∧
    ∀ character ∈ rest, character ∈ nameCharacters
  short : name.utf8ByteSize ≤ 63
  noKeyword : ∀ word ∈ reservedWords, ¬ SameButForCase name word
  free : name ∉ reserved

/-- The characters from one to another, by their code points. -/
def charactersFrom (first last : Char) : List Char :=
  (List.range' first.toNat (last.toNat + 1 - first.toNat)).map Char.ofNat

/-- A character between two others has one of the code points between theirs. -/
theorem mem_charactersFrom {first last character : Char}
    (between : (first ≤ character && character ≤ last) = true) :
    character ∈ charactersFrom first last := by
  -- Characters are in the order of their code points.
  rw [Bool.and_eq_true, decide_eq_true_eq, decide_eq_true_eq] at between
  have lower : first.toNat ≤ character.toNat := between.1
  have upper : character.toNat ≤ last.toNat := between.2
  refine List.mem_map.mpr ⟨character.toNat, ?_, Char.ofNat_toNat character⟩
  rw [List.mem_range'_1]
  omega

/-- The range from a to z holds the letters a to z. -/
theorem isSmallLetter_iff {character : Char} :
    isSmallLetter character = true ↔ character ∈ smallLetters := by
  -- One way the range is spelled out as the letters, the other way each letter is tried.
  constructor
  · intro between
    have letters : smallLetters = charactersFrom 'a' 'z' := by decide
    rw [letters]
    exact mem_charactersFrom between
  · have all : ∀ letter ∈ smallLetters, isSmallLetter letter = true := List.all_eq_true.mp (by decide)
    exact all character

/-- A name goes on with letters, digits and underscores. -/
theorem isNameCharacter_iff {character : Char} :
    isNameCharacter character = true ↔ character ∈ nameCharacters := by
  -- As for the letters, with the digits and the underscore beside them.
  constructor
  · intro allowed
    rw [isNameCharacter, Bool.or_eq_true, Bool.or_eq_true, beq_iff_eq] at allowed
    rcases allowed with (letter | digit) | rfl
    · exact List.mem_append_left _ (isSmallLetter_iff.mp letter)
    · refine List.mem_append_right _ ?_
      have digits : "0123456789_".toList = charactersFrom '0' '9' ++ ['_'] := by decide
      rw [digits]
      exact List.mem_append_left _ (mem_charactersFrom digit)
    · decide
  · have all : ∀ other ∈ nameCharacters, isNameCharacter other = true :=
      List.all_eq_true.mp (by decide)
    exact all character

/-- A text is well formed exactly if it is a letter with letters, digits and underscores up to its end. -/
theorem isWellFormed_iff {text : List Char} :
    isWellFormed text = true ↔ ∃ first rest, text = first :: rest ∧ first ∈ smallLetters ∧
      ∀ character ∈ rest, character ∈ nameCharacters := by
  -- Only the first character is held to the letters, and a text without one is no name.
  cases text with
  | nil => exact iff_of_false nofun (by rintro ⟨first, rest, impossible, _⟩; cases impossible)
  | cons first rest =>
    rw [isWellFormed, Bool.and_eq_true, List.all_eq_true, isSmallLetter_iff]
    simp only [isNameCharacter_iff]
    constructor
    · rintro ⟨letter, others⟩
      exact ⟨first, rest, rfl, letter, others⟩
    · rintro ⟨_, _, same, letter, others⟩
      cases same
      exact ⟨letter, others⟩

/-- What is spelled like a name has only characters of names. -/
theorem mem_nameCharacters {name : String} (spelled : isWellFormed name.toList = true)
    {character : Char} (member : character ∈ name.toList) : character ∈ nameCharacters := by
  -- The first character is a letter, and letters are among the characters of names.
  obtain ⟨first, rest, split, letter, others⟩ := isWellFormed_iff.mp spelled
  rw [split] at member
  rcases List.mem_cons.mp member with rfl | inside
  · exact List.mem_append_left _ letter
  · exact others character inside

/-- A change of case that small letters undo is undone in every name. -/
theorem lower_map {name : String} (spelled : isWellFormed name.toList = true) (change : Char → Char)
    (undone : ∀ character ∈ nameCharacters,
      (change character).toNat < 0x80 ∧ (change character).toLower = character) :
    Text.lower (name.toList.map change) = name.toList := by
  -- Within ASCII every letter is changed for itself, so it is enough that each one comes back.
  have ascii : ∀ character ∈ name.toList.map change, character.toNat < 0x80 := by
    intro character member
    obtain ⟨original, inside, rfl⟩ := List.mem_map.mp member
    exact (undone original (mem_nameCharacters spelled inside)).1
  rw [Text.lower_ascii ascii, List.map_map]
  calc name.toList.map (Char.toLower ∘ change)
      = name.toList.map id := List.map_congr_left fun character member =>
        (undone character (mem_nameCharacters spelled member)).2
    _ = name.toList := List.map_id name.toList

/-- A name is written in small letters. -/
theorem lower_name {name : String} (spelled : isWellFormed name.toList = true) :
    Text.lower name.toList = name.toList := by
  have kept := lower_map spelled id (List.all_iff_forall_prop.mp (by decide))
  rwa [List.map_id] at kept

/-- The capitals of a name give the name back. -/
theorem lower_capitals {name : String} (spelled : isWellFormed name.toList = true) :
    Text.lower (capitals name).toList = name.toList := by
  rw [capitals, String.toList_ofList]
  exact lower_map spelled Char.toUpper (List.all_iff_forall_prop.mp (by decide))

/-- The capitals of a name are a reserved word exactly if the name is one but for the case of its letters. -/
theorem contains_capitals {name : String} (spelled : isWellFormed name.toList = true) :
    reservedWords.contains (capitals name) = true ↔
      ∃ word ∈ reservedWords, SameButForCase name word := by
  rw [List.contains_iff_mem]
  constructor
  · intro reserved
    exact ⟨capitals name, reserved, (lower_name spelled).trans (lower_capitals spelled).symm⟩
  · rintro ⟨word, reserved, same⟩
    -- The reserved words are in capitals, so their small letters give them back.
    have written : ∀ word ∈ reservedWords, word.toList.all (fun letter => letter.toNat < 0x80) = true ∧
        (word.toList.map Char.toLower).map Char.toUpper = word.toList := by decide +kernel
    obtain ⟨ascii, restored⟩ := written word reserved
    rw [SameButForCase, lower_name spelled, Text.lower_ascii (List.all_iff_forall_prop.mp ascii)] at same
    have capital : capitals name = word := by
      rw [capitals, same, restored, String.ofList_toList]
    rwa [capital]

/-- What begins with a check ends well exactly if the check finds nothing and the rest ends well. -/
theorem check_eq_ok {found : Prop} [Decidable found] {fault : Fault} {rest : Except Fault Unit} :
    (if found then .error fault else rest) = .ok () ↔ ¬ found ∧ rest = .ok () := by
  -- A check that finds something settles the outcome, whatever the rest would say.
  by_cases given : found
  · rw [if_pos given]
    exact iff_of_false nofun fun passed => passed.1 given
  · rw [if_neg given]
    exact (and_iff_right given).symm

/-- A name is accepted exactly if no check finds anything. -/
theorem validate_eq_ok {name : String} {reserved : List String} :
    validate name reserved = .ok () ↔ name ≠ "" ∧ isWellFormed name.toList = true ∧
      name.utf8ByteSize ≤ greatestLength ∧ ¬ reservedWords.contains (capitals name) = true ∧
      name ∉ reserved := by
  simp only [validate, check_eq_ok, Bool.not_eq_true', Bool.not_eq_false, Nat.not_lt,
    List.contains_iff_mem, and_true, ne_eq]

/-- In a name without double quotes there is nothing to double. -/
theorem doubleQuotes_eq {text : List Char} (clear : '"' ∉ text) : doubleQuotes text = text := by
  -- No character of the name is a quote, so each is passed on as it is.
  induction text with
  | nil => rfl
  | cons character rest ih =>
    rw [List.mem_cons, not_or] at clear
    rw [doubleQuotes, if_neg (Ne.symm clear.1), ih clear.2]

/-- A text of one-byte characters has as many bytes as characters. -/
theorem utf8ByteSize_eq_length {text : String} :
    (∀ character ∈ text.toList, character.utf8Size = 1) → text.utf8ByteSize = text.length := by
  -- The induction is on the end of the text, where the bytes of a character are added.
  induction text using String.push_induction with
  | empty => intro _; rfl
  | push front last ih =>
    intro single
    rw [String.toList_push] at single
    have before := ih fun character member => single character (List.mem_append_left _ member)
    have width : last.utf8Size = 1 :=
      single last (List.mem_append_right _ (List.mem_singleton_self last))
    rw [String.utf8ByteSize_push, String.length_push, before, width]

/-- A name is accepted exactly if it is acceptable. -/
theorem validate_eq_ok_iff_acceptable {name : String} {reserved : List String} :
    validate name reserved = .ok () ↔ Acceptable name reserved := by
  rw [validate_eq_ok]
  constructor
  · rintro ⟨_, spelled, short, noKeyword, free⟩
    rw [contains_capitals spelled] at noKeyword
    exact ⟨isWellFormed_iff.mp spelled, short, fun word taken same => noKeyword ⟨word, taken, same⟩, free⟩
  · rintro ⟨parts, short, noKeyword, free⟩
    have spelled := isWellFormed_iff.mpr parts
    refine ⟨?_, spelled, short, ?_, free⟩
    · -- The empty text has no first letter.
      rintro rfl
      cases spelled
    · rw [contains_capitals spelled]
      rintro ⟨word, taken, same⟩
      exact noKeyword word taken same

/--
Exactly the acceptable names are accepted. Such a name has as many bytes as characters, is quoted by
putting it between two double quotes, and no other one has the same capitals.
-/
theorem accepts_exactly_grammar (name : String) (reserved : List String) :
    (validate name reserved = .ok () ↔ Acceptable name reserved) ∧
    (validate name reserved = .ok () →
      name.utf8ByteSize = name.length ∧
      quote name = "\"" ++ name ++ "\"" ∧
      ∀ (other : String) (taken : List String), validate other taken = .ok () →
        capitals other = capitals name → other = name) := by
  refine ⟨validate_eq_ok_iff_acceptable, fun accepted => ?_⟩
  have spelled := (validate_eq_ok.mp accepted).2.1
  -- All characters of names are single bytes, and none of them is a double quote.
  have plain : ∀ character ∈ nameCharacters, character.utf8Size = 1 ∧ character ≠ '"' :=
    List.all_iff_forall_prop.mp (by decide)
  refine ⟨?_, ?_, ?_⟩
  · exact utf8ByteSize_eq_length fun character member =>
      (plain character (mem_nameCharacters spelled member)).1
  · have clear : '"' ∉ name.toList := fun member =>
      (plain '"' (mem_nameCharacters spelled member)).2 rfl
    rw [quote, doubleQuotes_eq clear]
    apply String.toList_injective
    simp
  · intro other taken accepted' same
    -- Both names are what their capitals are in small letters.
    have spelled' := (validate_eq_ok.mp accepted').2.1
    apply String.toList_injective
    rw [← lower_capitals spelled', same, lower_capitals spelled]

/-- An order number is a name, but neither is an order, nor a number with a line break behind it. -/
theorem accepts_exactly_grammar_orders :
    validate "order_no" ["id"] = .ok () ∧ quote "order_no" = "\"order_no\"" ∧
    validate "order" ["id"] ≠ .ok () ∧ validate "order_no\n" ["id"] ≠ .ok () ∧
    (∀ (other : String) (taken : List String), validate other taken = .ok () →
      capitals other = "ORDER_NO" → other = "order_no") := by
  -- The good name meets every condition of the grammar.
  obtain ⟨grammar, good⟩ := accepts_exactly_grammar "order_no" ["id"]
  have accepted : validate "order_no" ["id"] = .ok () :=
    grammar.mpr ⟨⟨'o', "rder_no".toList, by decide, by decide, List.all_iff_forall_prop.mp (by decide)⟩,
      by decide, by decide +kernel, by decide⟩
  obtain ⟨_, quoted, unique⟩ := good accepted
  -- The order is a word of the language, and the line break is no character of names.
  refine ⟨accepted, quoted, ?_, ?_, unique⟩
  · intro passed
    have acceptable := (accepts_exactly_grammar "order" ["id"]).1.mp passed
    exact acceptable.noKeyword "ORDER" (by decide) (by decide)
  · intro passed
    obtain ⟨first, rest, split, _, others⟩ :=
      ((accepts_exactly_grammar "order_no\n" ["id"]).1.mp passed).spelled
    cases split
    exact absurd (others '\n' (by decide)) (by decide)

end Identifier

end RecordTables
