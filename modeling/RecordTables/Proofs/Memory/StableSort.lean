/-! What it means to sort a list and leave what compares equal in its order, and that a merge sort does. -/

namespace RecordTables

/--
A list in the order of a comparison, with items that compare equal in their former order: the items
are numbered, and of any two the one before compares less, or equal with a smaller number.
-/
def SortedFrom {α : Type} (compare : α → α → Ordering) (items sorted : List α) : Prop :=
  ∃ numbered : List (α × Nat), numbered.Perm items.zipIdx ∧
    (numbered.Pairwise fun first second => compare first.1 second.1 = .lt ∨
      (compare first.1 second.1 = .eq ∧ first.2 < second.2)) ∧
    numbered.map Prod.fst = sorted

/-- Items that a comparison orders: turning it around is the comparison the other way, and it is transitive. -/
structure Orders {α : Type} (compare : α → α → Ordering) (items : List α) : Prop where
  swap : ∀ first ∈ items, ∀ second ∈ items, compare second first = (compare first second).swap
  trans : ∀ first ∈ items, ∀ second ∈ items, ∀ third ∈ items, compare first second ≠ .gt →
    compare second third ≠ .gt → compare first third ≠ .gt

section Numbered

variable {α : Type}

/-- The numbers of a list's items are all different. -/
theorem zipIdx_numbers (items : List α) : (items.zipIdx.map Prod.snd).Nodup := by
  -- The numbers are those from zero on.
  rw [List.zipIdx_map_snd]
  exact List.nodup_range'

/-- Items in one order by a comparison that orders them are sorted in one way only. -/
theorem SortedFrom.unique {compare : α → α → Ordering} {items left right : List α}
    (orders : Orders compare items) (leftSorted : SortedFrom compare items left)
    (rightSorted : SortedFrom compare items right) : left = right := by
  -- Both lists are arrangements of the numbered items, and numbers break all ties.
  obtain ⟨lefts, leftPerm, leftPairs, rfl⟩ := leftSorted
  obtain ⟨rights, rightPerm, rightPairs, rfl⟩ := rightSorted
  have known : ∀ {pair : α × Nat}, pair ∈ items.zipIdx → pair.1 ∈ items :=
    fun member => List.fst_mem_of_mem_zipIdx member
  -- Two numbered items cannot each stand before the other.
  have same : lefts = rights := by
    refine List.Perm.eq_of_pairwise ?_ leftPairs rightPairs (leftPerm.trans rightPerm.symm)
    intro first second firstMember secondMember before after
    exfalso
    have turned := orders.swap first.1 (known (leftPerm.mem_iff.mp firstMember))
      second.1 (known (rightPerm.mem_iff.mp secondMember))
    rcases before with less | ⟨equal, smaller⟩
    · rw [less] at turned
      rcases after with less' | ⟨equal', _⟩
      · rw [less'] at turned; cases turned
      · rw [equal'] at turned; cases turned
    · rw [equal] at turned
      rcases after with less' | ⟨_, smaller'⟩
      · rw [less'] at turned; cases turned
      · omega
  rw [same]

/-- A comparison that orders everything sorts a list by merging. -/
theorem sortedFrom_mergeSort_of_orders {compare : α → α → Ordering}
    (swap : ∀ first second, compare second first = (compare first second).swap)
    (trans : ∀ first second third, compare first second ≠ .gt → compare second third ≠ .gt →
      compare first third ≠ .gt) (items : List α) :
    SortedFrom compare items (items.mergeSort fun first second => compare first second != .gt) := by
  -- The numbered items are sorted by both, and their numbers are then dropped.
  let before : α → α → Bool := fun first second => compare first second != .gt
  have beforeTrans : ∀ first second third, before first second = true → before second third = true →
      before first third = true := by
    intro first second third firstBefore secondBefore
    simp only [before, bne_iff_ne] at firstBefore secondBefore ⊢
    exact trans first second third firstBefore secondBefore
  have beforeTotal : ∀ first second, (before first second || before second first) = true := by
    intro first second
    simp only [before, swap first second]
    cases compare first second <;> rfl
  refine ⟨items.zipIdx.mergeSort (List.zipIdxLE before), List.mergeSort_perm _ _, ?_,
    List.mergeSort_zipIdx⟩
  have sorted := List.pairwise_mergeSort (List.zipIdxLE_trans beforeTrans)
    (List.zipIdxLE_total beforeTotal) items.zipIdx
  -- Numbers differ, so that among equals the smaller number is strictly smaller.
  have numbers : (items.zipIdx.mergeSort (List.zipIdxLE before)).Pairwise
      fun first second => first.2 ≠ second.2 := by
    have nodup := ((List.mergeSort_perm items.zipIdx (List.zipIdxLE before)).map Prod.snd).nodup_iff.mpr
      (zipIdx_numbers items)
    exact List.pairwise_map.mp nodup
  refine (sorted.and numbers).imp ?_
  intro first second both
  obtain ⟨ordered, different⟩ := both
  simp only [List.zipIdxLE, before, swap first.1 second.1] at ordered
  cases relation : compare first.1 second.1 with
  | lt => exact Or.inl rfl
  | gt => simp [relation] at ordered
  | eq =>
    have smaller : first.2 ≤ second.2 := by simpa [relation] using ordered
    exact Or.inr ⟨rfl, by omega⟩

/-- A comparison that orders the items of a list sorts the list by merging. -/
theorem sortedFrom_mergeSort {compare : α → α → Ordering} {items : List α}
    (orders : Orders compare items) :
    SortedFrom compare items (items.mergeSort fun first second => compare first second != .gt) := by
  -- On the items alone the comparison orders everything, so they are sorted with their membership.
  let within : {item // item ∈ items} → {item // item ∈ items} → Ordering :=
    fun first second => compare first.1 second.1
  have whole : SortedFrom within items.attach
      (items.attach.mergeSort fun first second => within first second != .gt) :=
    sortedFrom_mergeSort_of_orders
      (fun first second => orders.swap first.1 first.2 second.1 second.2)
      (fun first second third => orders.trans first.1 first.2 second.1 second.2 third.1 third.2)
      items.attach
  obtain ⟨numbered, perm, pairs, sorted⟩ := whole
  refine ⟨numbered.map (Prod.map Subtype.val id), ?_, List.pairwise_map.mpr pairs, ?_⟩
  · have plain := perm.map (Prod.map Subtype.val id)
    rwa [← List.zipIdx_map, List.attach_map_subtype_val] at plain
  · have plain := congrArg (List.map Subtype.val) sorted
    rw [List.map_mergeSort (s := fun first second => compare first second != .gt)
      (fun _ _ _ _ => rfl), List.attach_map_subtype_val] at plain
    simpa [Function.comp_def] using plain

end Numbered

end RecordTables
