import RecordTables.Dictionary

/-! Names and values of dictionaries after entries are set and removed. -/

namespace RecordTables

/-- Setting an entry under a new name adds that name and no other. -/
theorem names_insertEntry {α : Type} {name : String} {value : α} {entries : List (String × α)}
    (fresh : name ∉ entries.map Prod.fst) :
    ((insertEntry name value entries).map Prod.fst).Perm (name :: entries.map Prod.fst) := by
  -- A new name lands in front of the first greater one, so only the order of names is in question.
  induction entries with
  | nil => exact List.Perm.refl _
  | cons head rest ih =>
    obtain ⟨other, held⟩ := head
    simp only [List.map_cons, List.mem_cons, not_or] at fresh
    unfold insertEntry
    split
    · exact List.Perm.refl _
    · rw [if_neg fresh.1]
      -- Behind a smaller name the new one changes places with it.
      exact ((ih fresh.2).cons other).trans (List.Perm.swap name other _)

/-- The entry found under a name after a set is the new one or the one from before. -/
theorem find?_insertEntry {α : Type} {name : String} {value : α} (entries : List (String × α))
    (other : String) :
    ((insertEntry name value entries).find? fun entry => entry.1 == other) =
      if name = other then some (name, value) else entries.find? fun entry => entry.1 == other := by
  -- The place that is found lies before every greater name, and so before nothing that is looked for.
  induction entries with
  | nil =>
    by_cases same : name = other
    · simp [insertEntry, same]
    · simp [insertEntry, same]
  | cons head rest ih =>
    obtain ⟨held, stored⟩ := head
    unfold insertEntry
    by_cases same : name = other
    · subst other
      rw [if_pos rfl] at ih ⊢
      split
      · simp
      · split
        · simp
        · rename_i different
          have passed : (held == name) = false := beq_false_of_ne (Ne.symm different)
          simp only [List.find?_cons, passed, ih]
    · rw [if_neg same] at ih ⊢
      have skipped : (name == other) = false := beq_false_of_ne same
      split
      · simp only [List.find?_cons, skipped]
      · split
        · -- The replaced entry had the same name, which is not the one looked for.
          rename_i replaced
          subst held
          simp only [List.find?_cons, skipped]
        · simp only [List.find?_cons, ih]

/-- The names of ascending entries are all different. -/
theorem Ascending.nodup {α : Type} {entries : List (String × α)} (ascending : Ascending entries) :
    (entries.map Prod.fst).Nodup := by
  -- Each name comes before all that follow, and no name comes before itself.
  refine List.pairwise_map.mpr (List.Pairwise.imp ?_ ascending)
  rintro entry later before same
  exact String.lt_irrefl later.1 (same ▸ before)

/-- Sorting adds no entry. -/
theorem mem_sortEntries {α : Type} {entries : List (String × α)} {entry : String × α}
    (member : entry ∈ sortEntries entries) : entry ∈ entries := by
  -- Each step of the fold inserts an entry of the list.
  suffices steps : ∀ {sorted : List (String × α)},
      entry ∈ entries.foldl (fun sorted entry => insertEntry entry.1 entry.2 sorted) sorted →
        entry ∈ sorted ∨ entry ∈ entries from (steps member).resolve_left nofun
  clear member
  induction entries with
  | nil => exact Or.inl
  | cons first rest ih =>
    intro sorted member
    rcases ih member with inserted | later
    · rcases mem_insertEntry inserted with rfl | before
      · exact .inr List.mem_cons_self
      · exact .inl before
    · exact .inr (List.mem_cons_of_mem _ later)


/-- An entry with a greater name than all others is set behind them. -/
theorem insertEntry_of_greater {α : Type} {name : String} {value : α} {entries : List (String × α)}
    (greater : ∀ entry ∈ entries, entry.1 < name) :
    insertEntry name value entries = entries ++ [(name, value)] := by
  -- The new entry passes every other one on its way to the end, and never meets its own name.
  induction entries with
  | nil => rfl
  | cons head rest ih =>
    obtain ⟨other, held⟩ := head
    obtain ⟨before, later⟩ := List.forall_mem_cons.mp greater
    have different : name ≠ other := fun same => String.lt_irrefl other (same ▸ before)
    unfold insertEntry
    rw [if_neg (String.lt_asymm before), if_neg different, ih later, List.cons_append]

/-- Entries that are ascending already are sorted. -/
theorem sortEntries_of_ascending {α : Type} {entries : List (String × α)}
    (ascending : Ascending entries) : sortEntries entries = entries := by
  -- Every entry is set behind those that were sorted before it, as its name is greater.
  suffices steps : ∀ sorted : List (String × α), Ascending (sorted ++ entries) →
      entries.foldl (fun sorted entry => insertEntry entry.1 entry.2 sorted) sorted =
        sorted ++ entries from steps [] ascending
  clear ascending
  induction entries with
  | nil => exact fun sorted _ => (List.append_nil sorted).symm
  | cons entry rest ih =>
    intro sorted ascending
    have greater : ∀ earlier ∈ sorted, earlier.1 < entry.1 := fun earlier member =>
      (List.pairwise_append.mp ascending).2.2 earlier member entry List.mem_cons_self
    rw [List.append_cons] at ascending
    rw [List.foldl_cons, insertEntry_of_greater greater, ih _ ascending, ← List.append_cons]

/-- Of items with different names every one is found under its name. -/
theorem find?_of_mem {α : Type} {name : α → String} {items : List α}
    (distinct : (items.map name).Nodup) {item : α} (member : item ∈ items) :
    (items.find? fun other => name other == name item) = some item := by
  -- An item in front of the one looked for has another name and is passed over.
  induction items with
  | nil => exact absurd member List.not_mem_nil
  | cons head rest ih =>
    obtain ⟨apart, distinct⟩ := List.nodup_cons.mp distinct
    rcases List.mem_cons.mp member with rfl | within
    · simp
    · have different : name head ≠ name item := fun same =>
        apart (same ▸ List.mem_map_of_mem within)
      simp only [List.find?_cons, beq_false_of_ne different]
      exact ih distinct within

section Entries

variable {α β : Type}

/-- Reads the value of every entry, if all of them can be read. -/
def readEntries? (read? : α → Option β) : List (String × α) → Option (List (String × β))
  | [] => some []
  | (name, value) :: rest =>
    (read? value).bind fun held => (readEntries? read? rest).map ((name, held) :: ·)

variable (read? : α → Option β)

/-- An entry that is set under a new name can be read before it is set as well as after. -/
theorem readEntries?_insertEntry {name : String} {value : α} {entries : List (String × α)}
    (fresh : name ∉ entries.map Prod.fst) :
    readEntries? read? (insertEntry name value entries) =
      (read? value).bind fun held => (readEntries? read? entries).map (insertEntry name held) := by
  -- The new entry goes to the same place among the entries that are read.
  induction entries with
  | nil => rfl
  | cons head rest ih =>
    obtain ⟨other, stored⟩ := head
    simp only [List.map_cons, List.mem_cons, not_or] at fresh
    unfold insertEntry
    by_cases before : name < other
    · rw [if_pos before]
      cases held : read? value <;> cases kept : read? stored <;>
        cases others : readEntries? read? rest <;>
          simp [readEntries?, held, kept, others, insertEntry, before]
    · rw [if_neg before, if_neg fresh.1, readEntries?, ih fresh.2, readEntries?]
      cases held : read? value <;> cases kept : read? stored <;>
        cases others : readEntries? read? rest <;>
          simp [insertEntry, before, fresh.1]

/-- Entries with different names can be read before they are sorted as well as after. -/
theorem readEntries?_sortEntries {entries : List (String × α)}
    (distinct : (entries.map Prod.fst).Nodup) :
    readEntries? read? (sortEntries entries) = (readEntries? read? entries).map sortEntries := by
  -- The induction is on the entries still to be set, with those that are sorted already.
  suffices steps : ∀ sorted : List (String × α),
      (sorted.map Prod.fst ++ entries.map Prod.fst).Nodup →
      readEntries? read? (entries.foldl (fun sorted entry => insertEntry entry.1 entry.2 sorted) sorted) =
        (readEntries? read? sorted).bind fun read => (readEntries? read? entries).map fun more =>
          more.foldl (fun sorted entry => insertEntry entry.1 entry.2 sorted) read from
    steps [] distinct
  clear distinct
  induction entries with
  | nil =>
    intro sorted _
    cases held : readEntries? read? sorted <;> simp [readEntries?, held]
  | cons entry rest ih =>
    intro sorted distinct
    obtain ⟨name, value⟩ := entry
    rw [List.map_cons, List.perm_middle.nodup_iff, List.nodup_cons, List.mem_append, not_or] at distinct
    obtain ⟨⟨fresh, later⟩, others⟩ := distinct
    -- The entry that is set next has a name that neither those set nor those left have.
    have next : ((insertEntry name value sorted).map Prod.fst ++ rest.map Prod.fst).Nodup := by
      refine ((names_insertEntry fresh).append_right _).nodup_iff.mpr ?_
      exact List.nodup_cons.mpr ⟨by simp [fresh, later], others⟩
    rw [List.foldl_cons, ih _ next, readEntries?_insertEntry read? fresh]
    cases held : read? value <;> cases before : readEntries? read? sorted <;>
      cases behind : readEntries? read? rest <;> simp [readEntries?, held, behind]

end Entries

namespace Dictionary

variable {α : Type}

/-- A value set under one name changes what is found under that name only. -/
theorem get?_insert (dictionary : Dictionary α) (name : String) (value : α) (other : String) :
    (dictionary.insert name value).get? other =
      if name = other then some value else dictionary.get? other := by
  -- Looking up and inserting are those of the entries.
  unfold get? insert
  rw [find?_insertEntry]
  split
  · rfl
  · rfl

/-- The names after a new one is set. -/
theorem names_insert {dictionary : Dictionary α} {name : String} {value : α}
    (fresh : name ∉ dictionary.names) :
    (dictionary.insert name value).names.Perm (name :: dictionary.names) :=
  names_insertEntry fresh

/-- A name is looked up in vain once it was removed, and all others as before. -/
theorem get?_erase (dictionary : Dictionary α) (name other : String) :
    (dictionary.erase name).get? other = if name = other then none else dictionary.get? other := by
  -- The entries that are left have other names than the one removed.
  unfold get? erase
  by_cases same : name = other
  · subst other
    simp [List.find?_filter]
  · rw [if_neg same, List.find?_filter]
    congr 2
    funext entry
    by_cases held : entry.1 = other
    · simp [held, Ne.symm same]
    · simp [held]

/-- The names of a dictionary are all different. -/
theorem nodup_names (dictionary : Dictionary α) : dictionary.names.Nodup :=
  dictionary.ascending.nodup

/-- The entries are the names with what is found under them. -/
theorem mem_entries {dictionary : Dictionary α} {name : String} {value : α} :
    (name, value) ∈ dictionary.entries ↔ dictionary.get? name = some value := by
  -- A search stops at the first entry with the name, which is the only one because names are distinct.
  unfold get?
  constructor
  · intro member
    rw [find?_of_mem dictionary.nodup_names member]
    rfl
  · intro found
    obtain ⟨entry, held, rfl⟩ := Option.map_eq_some_iff.mp found
    have named : entry.1 = name := by simpa using List.find?_some held
    exact named ▸ List.mem_of_find?_eq_some held

/-- The names are those that something is found under. -/
theorem mem_names {dictionary : Dictionary α} {name : String} :
    name ∈ dictionary.names ↔ (dictionary.get? name).isSome = true := by
  -- A name stands for the entry that has it.
  unfold names
  rw [Option.isSome_iff_exists, List.mem_map]
  constructor
  · rintro ⟨entry, member, rfl⟩
    exact ⟨entry.2, mem_entries.mp member⟩
  · rintro ⟨value, found⟩
    exact ⟨(name, value), mem_entries.mpr found, rfl⟩

/-- The names that are left once one was removed. -/
theorem mem_names_erase {dictionary : Dictionary α} {name other : String} :
    other ∈ (dictionary.erase name).names ↔ name ≠ other ∧ other ∈ dictionary.names := by
  -- What is found under a name says whether it is a name, and erasing settles what is found.
  rw [mem_names, mem_names, get?_erase]
  split
  · rename_i same
    simp [same]
  · rename_i different
    simp [different]

/-- Dictionaries with the same value under every name are the same. -/
theorem ext_get? {dictionary other : Dictionary α}
    (same : ∀ name, dictionary.get? name = other.get? name) : dictionary = other := by
  -- They have the same entries, and there is only one ascending order of them.
  have nodup : ∀ dictionary : Dictionary α, dictionary.entries.Nodup := by
    intro dictionary
    refine dictionary.ascending.imp ?_
    rintro entry _ before rfl
    exact String.lt_irrefl entry.1 before
  have perm : dictionary.entries.Perm other.entries := by
    refine (List.perm_ext_iff_of_nodup (nodup dictionary) (nodup other)).mpr ?_
    rintro ⟨name, value⟩
    rw [mem_entries, mem_entries, same]
  have equal : dictionary.entries = other.entries :=
    perm.eq_of_pairwise (fun _ _ _ _ before after => absurd after (String.lt_asymm before))
      dictionary.ascending other.ascending
  cases dictionary
  cases other
  cases equal
  rfl

/-- A dictionary from which some names were removed one after the other. -/
def without (dictionary : Dictionary α) (names : List String) : Dictionary α :=
  names.foldl erase dictionary

/-- Under the names that were removed there is nothing, and under any other name what was there before. -/
theorem get?_without (dictionary : Dictionary α) (names : List String) (name : String) :
    (dictionary.without names).get? name = if name ∈ names then none else dictionary.get? name := by
  induction names generalizing dictionary with
  | nil => rfl
  | cons first rest ih =>
    -- Removing the first name leaves a dictionary from which the others are removed.
    show ((dictionary.erase first).without rest).get? name = _
    rw [ih, get?_erase]
    by_cases same : name = first
    · simp [same]
    · simp [same, Ne.symm same]

/-- The entries of a dictionary under some names. -/
def only (dictionary : Dictionary α) (names : List String) : Dictionary α :=
  ⟨dictionary.entries.filter fun entry => names.contains entry.1,
    List.Pairwise.sublist List.filter_sublist dictionary.ascending⟩

/-- Under one of the names is what was there before, and under any other name nothing. -/
theorem get?_only (dictionary : Dictionary α) (names : List String) (name : String) :
    (dictionary.only names).get? name = if name ∈ names then dictionary.get? name else none := by
  -- An entry with the name is kept or dropped for its name alone.
  unfold get? only
  rw [List.find?_filter]
  split
  · rename_i listed
    congr 2
    funext entry
    by_cases held : entry.1 = name
    · simp [held, listed]
    · simp [held]
  · rename_i unlisted
    have nothing : (dictionary.entries.find? fun entry =>
        decide (names.contains entry.1 = true ∧ (entry.1 == name) = true)) = none := by
      refine List.find?_eq_none.mpr ?_
      intro entry _ both
      simp only [List.contains_eq_mem, decide_eq_true_eq, beq_iff_eq] at both
      exact unlisted (both.2 ▸ both.1)
    rw [nothing]
    rfl

/-- The names under which something was are the names that are kept. -/
theorem names_only {dictionary : Dictionary α} {names : List String} (distinct : names.Nodup)
    (held : ∀ name ∈ names, (dictionary.get? name).isSome = true) :
    (dictionary.only names).names.Perm names := by
  -- Neither list repeats a name, so that it is enough that they have the same members.
  refine (List.perm_ext_iff_of_nodup (nodup_names _) distinct).mpr ?_
  intro name
  rw [mem_names, get?_only]
  split
  · rename_i listed
    simp [listed, held name listed]
  · rename_i unlisted
    simp [unlisted]

end Dictionary

end RecordTables
