import RecordTables.Json.Decoder
import RecordTables.Proofs.Json.Depth

/-! The readers of lists and fields: they give back what is written, and look only inside what they read. -/

namespace RecordTables

/-- A list is read back if every item is. -/
theorem mapM_map_some {α β : Type} {write : α → β} {read? : β → Option α} {items : List α}
    (back : ∀ item ∈ items, read? (write item) = some item) :
    (items.map write).mapM read? = some items := by
  -- The list is read item by item, and the first that is read back leaves the rest to the induction.
  induction items with
  | nil => rfl
  | cons item rest ih =>
    obtain ⟨first, others⟩ := List.forall_mem_cons.mp back
    rw [List.map_cons, List.mapM_cons, first, ih others]
    rfl

/-- Every item of a list that is read comes from an item of the list that was written. -/
theorem exists_of_mem_mapM {α β : Type} {read? : α → Option β} {items : List α} {results : List β}
    (read : items.mapM read? = some results) {result : β} (member : result ∈ results) :
    ∃ item ∈ items, read? item = some result := by
  -- A result is either that of the first item or one of the results of the rest.
  induction items generalizing results with
  | nil =>
    cases read
    cases member
  | cons item rest ih =>
    rw [List.mapM_cons] at read
    obtain ⟨first, found, others⟩ := Option.bind_eq_some_iff.mp read
    obtain ⟨later, left, same⟩ := Option.bind_eq_some_iff.mp others
    cases same
    rcases List.mem_cons.mp member with rfl | behind
    · exact ⟨item, List.mem_cons_self, found⟩
    · obtain ⟨source, present, given⟩ := ih left behind
      exact ⟨source, List.mem_cons_of_mem _ present, given⟩

namespace Json

/-- The items that would be written are the items written. -/
theorem writtenItems_eq (items : List Json) : writtenItems items = items.map written := by
  induction items with
  | nil => rfl
  | cons item rest ih => exact congrArg (item.written :: ·) ih

/-- An array is one deeper than the deepest of its items. -/
theorem depth_array_le {items : List Json} {bound : Nat} (within : ∀ item ∈ items, item.depth ≤ bound) :
    (array items).depth ≤ bound + 1 := by
  -- An array is one deeper than its items, as they are written.
  refine Nat.succ_le_succ (Written.depthItems_le.mpr ?_)
  rw [writtenItems_eq, List.forall_mem_map]
  exact within

end Json

namespace Written

/-- A list of strings is read back. -/
theorem texts?_strings (texts : List String) :
    (Json.array (texts.map .string)).written.texts? = some texts := by
  -- Each item is a string and read as the text that it was written for.
  show (Json.writtenItems (texts.map .string)).mapM text? = some texts
  rw [Json.writtenItems_eq, List.map_map]
  exact mapM_map_some fun _ _ => rfl

/-- The document of a list of strings has no more than the list open. -/
theorem depth_strings (texts : List String) : (Json.array (texts.map .string)).depth ≤ 1 := by
  -- Strings have no depth of their own.
  have flat : ∀ item ∈ texts.map Json.string, item.depth ≤ 0 :=
    List.forall_mem_map.mpr fun _ _ => Nat.le_refl _
  exact Json.depth_array_le flat

/-- A field lies in the object or the array that it is read from. -/
theorem depth_field {names : List String} {written : Written} {fields : Fields}
    (read : written.fields? names = some fields) {value : Written} (member : some value ∈ fields.values) :
    value.depth + 1 ≤ written.depth := by
  cases written with
  | object members =>
    obtain ⟨named, spelled, rest⟩ := Option.bind_eq_some_iff.mp read
    obtain ⟨values, found, same⟩ := Option.bind_eq_some_iff.mp rest
    cases same
    obtain ⟨name, _, given⟩ := exists_of_mem_mapM found member
    -- A field is the value of the only member with its name.
    have present : ∃ other, (other, value) ∈ named := by
      unfold field? at given
      split at given
      · cases given
      · rename_i held only
        cases given
        have listed : held ∈ named.filter fun entry => entry.1 == name :=
          only ▸ List.mem_singleton_self held
        exact ⟨held.1, (List.mem_filter.mp listed).1⟩
      · cases given
    obtain ⟨other, listed⟩ := present
    obtain ⟨source, inside, spelling⟩ := exists_of_mem_mapM spelled listed
    obtain ⟨_, _, same⟩ := Option.map_eq_some_iff.mp spelling
    cases same
    exact Nat.succ_le_succ (depthMembers_le.mp (Nat.le_refl _) source inside)
  | array items =>
    simp only [fields?, Option.ite_none_right_eq_some, Option.some.injEq] at read
    obtain ⟨_, rfl⟩ := read
    -- What is left out holds no value.
    rcases List.mem_append.mp member with listed | missing
    · obtain ⟨item, inside, same⟩ := List.mem_map.mp listed
      cases same
      exact Nat.succ_le_succ (depthItems_le.mp (Nat.le_refl _) _ inside)
    · cases (List.mem_replicate.mp missing).2
  | _ => cases read

end Written

end RecordTables
