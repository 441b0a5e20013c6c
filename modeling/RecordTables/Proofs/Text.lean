import Mathlib.Data.Bool.AllAny
import RecordTables.Text.Blank
import RecordTables.Text.Lowercase
import RecordTables.Text.Split

/-!
Text that is cut, trimmed and written in small letters. Cutting takes texts with a separator between them
apart, trimming takes blanks away from both ends only, and a character without another case stays in place.
-/

namespace RecordTables

namespace Text

/-- ASCII text is changed letter by letter, whatever stands before it. -/
theorem lowerAfter_ascii {text : List Char} (ascii : ∀ character ∈ text, character.toNat < 0x80)
    (before : List Char) : lowerAfter before text = text.map Char.toLower := by
  -- The sigma with two forms is beyond ASCII, so no character looks at its neighbours.
  induction text generalizing before with
  | nil => rfl
  | cons character rest ih =>
    have small : character.toNat < 0x80 := ascii character List.mem_cons_self
    have plain : character ≠ capitalSigma := by
      rintro rfl
      exact absurd small (by decide)
    have tail := ih (fun other member => ascii other (List.mem_cons_of_mem _ member))
      (character :: before)
    rw [lowerAfter, if_neg plain, tail, lowerCharacter, if_pos small]
    rfl

/-- The lower-case form of ASCII text is that of each of its letters. -/
theorem lower_ascii {text : List Char} (ascii : ∀ character ∈ text, character.toNat < 0x80) :
    lower text = text.map Char.toLower :=
  lowerAfter_ascii ascii []

/-- A character that is its own lower-case form, wherever it stands. -/
def Caseless (character : Char) : Prop :=
  character ≠ capitalSigma ∧ lowerCharacter character = [character]

instance (character : Char) : Decidable (Caseless character) :=
  inferInstanceAs (Decidable (_ ∧ _))

/-- A caseless character of a text is in its lower-case form, whatever stands before the text. -/
theorem mem_lowerAfter {text : List Char} {character : Char} (caseless : Caseless character)
    (before : List Char) (member : character ∈ text) : character ∈ lowerAfter before text := by
  -- What stands before varies in the induction, because the form of a final letter looks back at it.
  induction text generalizing before with
  | nil => cases member
  | cons first rest ih =>
    rw [lowerAfter]
    rcases List.mem_cons.mp member with rfl | inside
    · rw [if_neg caseless.1, caseless.2]
      exact List.mem_append_left _ List.mem_cons_self
    · exact List.mem_append_right _ (ih (first :: before) inside)

/-- The blank characters of Unicode, by their code points. -/
def blanks : List Char :=
  (List.range' 0x9 5 ++ [0x20, 0x85, 0xa0, 0x1680] ++ List.range' 0x2000 11 ++
    [0x2028, 0x2029, 0x202f, 0x205f, 0x3000]).map Char.ofNat

/-- There are no other blanks than those. -/
theorem mem_blanks {character : Char} (blank : isBlank character = true) : character ∈ blanks := by
  -- The ranges of the test are those of the list.
  simp only [isBlank, Bool.or_eq_true, Bool.and_eq_true, decide_eq_true_eq, beq_iff_eq] at blank
  refine List.mem_map.mpr ⟨character.toNat, ?_, Char.ofNat_toNat character⟩
  simp only [List.mem_append, List.mem_range'_1, List.mem_cons, List.not_mem_nil]
  omega

/-- No blank has another case. -/
theorem caseless_blank {character : Char} (blank : isBlank character = true) : Caseless character := by
  have all : ∀ blank ∈ blanks, Caseless blank := List.all_iff_forall_prop.mp (by decide +kernel)
  exact all character (mem_blanks blank)

/-- A text is blank if all of its characters are. -/
def Blank (text : List Char) : Prop := ∀ character ∈ text, isBlank character = true

instance (text : List Char) : Decidable (Blank text) :=
  decidable_of_iff (text.all isBlank = true) List.all_eq_true

/-- Blanks at the start are dropped. -/
theorem dropBlanks_append {blank : List Char} (all : Blank blank) (rest : List Char) :
    dropBlanks (blank ++ rest) = dropBlanks rest :=
  List.dropWhile_append_of_pos all

/-- Nothing is dropped from a text that begins with another character. -/
theorem dropBlanks_cons {first : Char} (given : isBlank first = false) (rest : List Char) :
    dropBlanks (first :: rest) = first :: rest :=
  List.dropWhile_cons_of_neg (Bool.eq_false_iff.mp given)

/-- Nothing is dropped where no blank is. -/
theorem dropBlanks_eq {text : List Char} (none : ∀ character ∈ text, isBlank character = false) :
    dropBlanks text = text := by
  -- Blanks are only dropped up to the first other character.
  cases text with
  | nil => rfl
  | cons first rest => exact dropBlanks_cons (none first List.mem_cons_self) rest

/-- A text is what is left of it when blanks are dropped, with blanks before it. -/
theorem exists_dropBlanks (text : List Char) : ∃ blank, Blank blank ∧ text = blank ++ dropBlanks text :=
  ⟨text.takeWhile isBlank, List.all_eq_true.mp List.all_takeWhile,
    List.takeWhile_append_dropWhile.symm⟩

/-- A text is its trimmed form between blanks. -/
theorem exists_trim (text : List Char) :
    ∃ before after, Blank before ∧ Blank after ∧ text = before ++ trim text ++ after := by
  obtain ⟨before, blankBefore, front⟩ := exists_dropBlanks text
  obtain ⟨after, blankAfter, back⟩ := exists_dropBlanks (dropBlanks text).reverse
  refine ⟨before, after.reverse, blankBefore, ?_, ?_⟩
  · exact fun character member => blankAfter character (List.mem_reverse.mp member)
  · -- The blanks at the end are those at the start of the reversed text.
    have turned := congrArg List.reverse back
    rw [List.reverse_reverse, List.reverse_append] at turned
    rw [trim, List.append_assoc, ← turned]
    exact front

/-- A text without blanks is what is left when blanks around it are trimmed away. -/
theorem trim_between {before middle after : List Char} (blankBefore : Blank before)
    (blankAfter : Blank after) (none : ∀ character ∈ middle, isBlank character = false) :
    trim (before ++ middle ++ after) = middle := by
  have turned : ∀ character ∈ middle.reverse, isBlank character = false :=
    fun character member => none character (List.mem_reverse.mp member)
  have last : Blank after.reverse :=
    fun character member => blankAfter character (List.mem_reverse.mp member)
  rw [trim, List.append_assoc, dropBlanks_append blankBefore]
  cases middle with
  | nil =>
    -- Nothing stands between the blanks, and so all is dropped from the start.
    have nothing := dropBlanks_append blankAfter []
    rw [List.append_nil] at nothing
    rw [List.nil_append, nothing]
    rfl
  | cons first rest =>
    have kept : dropBlanks (first :: rest ++ after) = first :: rest ++ after :=
      dropBlanks_cons (none first List.mem_cons_self) (rest ++ after)
    rw [kept, List.reverse_append, dropBlanks_append last, dropBlanks_eq turned, List.reverse_reverse]

/-- There is always a first part. -/
theorem splitAt_ne_nil (separator : Char) (text : List Char) : splitAt separator text ≠ [] := by
  -- A separator starts a part and any other character is put into one.
  cases text with
  | nil => exact List.cons_ne_nil _ _
  | cons character rest =>
    rw [splitAt]
    split
    · exact List.cons_ne_nil _ _
    · split <;> exact List.cons_ne_nil _ _

/-- Two texts with a separator between them have the parts of the first and then those of the second. -/
theorem splitAt_append (separator : Char) (first second : List Char) :
    splitAt separator (first ++ separator :: second) =
      splitAt separator first ++ splitAt separator second := by
  induction first with
  | nil => simp [splitAt]
  | cons character rest ih =>
    rw [List.cons_append, splitAt, splitAt, ih]
    split
    · rfl
    · -- The character goes to the first part of the rest, which is there.
      obtain ⟨part, parts, found⟩ := List.exists_cons_of_ne_nil (splitAt_ne_nil separator rest)
      rw [found]
      rfl

/-- A text without a separator is one part. -/
theorem splitAt_single {separator : Char} {text : List Char} (whole : separator ∉ text) :
    splitAt separator text = [text] := by
  -- No character of the text ends the part.
  induction text with
  | nil => rfl
  | cons character rest ih =>
    rw [List.mem_cons, not_or] at whole
    rw [splitAt, if_neg (Ne.symm whole.1), ih whole.2]

end Text

end RecordTables
