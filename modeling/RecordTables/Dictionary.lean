/-! Dictionaries from names to values, kept in ascending order of the names. -/

namespace RecordTables

/-- The entries with one entry set, in ascending order of the names. -/
def insertEntry {α : Type} (name : String) (value : α) : List (String × α) → List (String × α)
  | [] => [(name, value)]
  | (other, held) :: rest =>
    if name < other then (name, value) :: (other, held) :: rest
    -- A name has one entry, and what was there is replaced.
    else if name = other then (name, value) :: rest
    else (other, held) :: insertEntry name value rest

/-- The entries in ascending order of their names, the last of several with one name. -/
def sortEntries {α : Type} (entries : List (String × α)) : List (String × α) :=
  entries.foldl (fun sorted entry => insertEntry entry.1 entry.2 sorted) []

/-- Entries are ascending when every name comes before all that follow. -/
def Ascending {α : Type} (entries : List (String × α)) : Prop :=
  entries.Pairwise fun entry later => entry.1 < later.1

/-- Every entry after an insertion is the new one or was there before. -/
theorem mem_insertEntry {α : Type} {name : String} {value : α} {entries : List (String × α)}
    {entry : String × α} (member : entry ∈ insertEntry name value entries) :
    entry = (name, value) ∨ entry ∈ entries := by
  -- The new entry lands in front of, instead of, or behind the first one.
  induction entries with
  | nil => simpa [insertEntry] using member
  | cons head rest ih =>
    rcases head with ⟨other, held⟩
    unfold insertEntry at member
    split at member
    · simpa using member
    · split at member
      · simp only [List.mem_cons] at member
        rcases member with same | member
        · exact Or.inl same
        · exact Or.inr (by simp [member])
      · simp only [List.mem_cons] at member
        rcases member with same | member
        · exact Or.inr (by simp [same])
        · rcases ih member with same | member
          · exact Or.inl same
          · exact Or.inr (by simp [member])

/-- Inserting keeps entries ascending. -/
theorem ascending_insertEntry {α : Type} {name : String} {value : α} {entries : List (String × α)}
    (ascending : Ascending entries) : Ascending (insertEntry name value entries) := by
  -- Names are totally ordered, so the place found separates smaller from greater ones.
  induction entries with
  | nil => simp [insertEntry, Ascending]
  | cons head rest ih =>
    rcases head with ⟨other, held⟩
    simp only [Ascending, List.pairwise_cons] at ascending
    obtain ⟨first, tail⟩ := ascending
    unfold insertEntry
    split
    · rename_i before
      simp only [Ascending, List.pairwise_cons, List.mem_cons]
      -- The new entry is less than the head, and the head less than all others.
      refine ⟨?_, first, tail⟩
      rintro entry (same | member)
      · simpa [same] using before
      · exact String.lt_trans before (first entry member)
    · rename_i notBefore
      split
      · rename_i same
        simp only [Ascending, List.pairwise_cons]
        exact ⟨fun entry member => by simpa [same] using first entry member, tail⟩
      · rename_i different
        simp only [Ascending, List.pairwise_cons]
        -- The head stays in front, and is less than the new entry because it is neither greater nor equal.
        refine ⟨fun entry member => ?_, ih tail⟩
        rcases mem_insertEntry member with same | member
        · have total := Std.lt_of_le_of_ne (String.not_lt.mp notBefore) (Ne.symm different)
          simpa [same] using total
        · exact first entry member

/-- Sorting gives ascending entries. -/
theorem ascending_sortEntries {α : Type} (entries : List (String × α)) :
    Ascending (sortEntries entries) := by
  -- Each step of the fold is an insertion into ascending entries.
  suffices steps : ∀ sorted : List (String × α), Ascending sorted →
      Ascending (entries.foldl (fun sorted entry => insertEntry entry.1 entry.2 sorted) sorted) from
    steps [] (by simp [Ascending])
  induction entries with
  | nil => exact fun sorted ascending => ascending
  | cons entry rest ih =>
    exact fun sorted ascending => ih _ (ascending_insertEntry ascending)

/-- Values by name, each name at most once. -/
structure Dictionary (α : Type) where
  entries : List (String × α)
  ascending : Ascending entries

namespace Dictionary

variable {α : Type}

/-- No entry at all. -/
def empty : Dictionary α := ⟨[], by simp [Ascending]⟩

/-- The value under a name. -/
def get? (dictionary : Dictionary α) (name : String) : Option α :=
  (dictionary.entries.find? fun entry => entry.1 == name).map fun entry => entry.2

/-- The dictionary with the value under a name set. -/
def insert (dictionary : Dictionary α) (name : String) (value : α) : Dictionary α :=
  ⟨insertEntry name value dictionary.entries, ascending_insertEntry dictionary.ascending⟩

/-- The dictionary without a name. -/
def erase (dictionary : Dictionary α) (name : String) : Dictionary α :=
  ⟨dictionary.entries.filter fun entry => entry.1 != name,
    List.Pairwise.sublist List.filter_sublist dictionary.ascending⟩

/-- The number of names. -/
def size (dictionary : Dictionary α) : Nat := dictionary.entries.length

/-- The names in ascending order. -/
def names (dictionary : Dictionary α) : List String := dictionary.entries.map fun entry => entry.1

end Dictionary

end RecordTables
