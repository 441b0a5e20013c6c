import Mathlib.Data.List.Induction
import RecordTables.Proofs.Column.Layout
import RecordTables.Table

/-! Everything that is wrong with the description of a table; a description is refused for the first of it. -/

namespace RecordTables

/-- The failure of a result, if it is none. -/
def failure? {α : Type} : Except Failure α → Option Failure
  | .error failure => some failure
  | .ok _ => none

/-- A result has a failure exactly when it is that error. -/
theorem failure?_eq_some {α : Type} {outcome : Except Failure α} {failure : Failure} :
    failure? outcome = some failure ↔ outcome = .error failure := by
  cases outcome <;> simp [failure?]

/-- A result has no failure exactly when there is a value. -/
theorem failure?_eq_none {α : Type} {outcome : Except Failure α} :
    failure? outcome = none ↔ ∃ value, outcome = .ok value := by
  cases outcome <;> simp [failure?]

/-- What is made of a result is an error exactly when the result is. -/
theorem map_eq_error {α β : Type} {outcome : Except Failure α} {change : α → β} {failure : Failure} :
    outcome.map change = .error failure ↔ outcome = .error failure := by
  cases outcome <;> simp [Except.map]

/-- What is done for all items fails as it fails for the first item that it fails for. -/
theorem failure?_mapM {α β : Type} (action : α → Except Failure β) (items : List α) :
    failure? (items.mapM action) = items.findSome? fun item => failure? (action item) := by
  -- The items behind a failure are not come to.
  induction items with
  | nil => rfl
  | cons item rest ih =>
    rw [List.mapM_cons, List.findSome?_cons]
    cases head : action item with
    | error failure => rfl
    | ok value =>
      show _ = rest.findSome? fun item => failure? (action item)
      rw [← ih]
      cases rest.mapM action <;> rfl

/-- What is done for all items fails exactly as it fails for an item before which it fails for none. -/
theorem mapM_eq_error {α β : Type} {action : α → Except Failure β} {items : List α} {failure : Failure} :
    items.mapM action = .error failure ↔
      ∃ before item behind, items = before ++ item :: behind ∧ action item = .error failure ∧
        ∀ earlier ∈ before, ∃ value, action earlier = .ok value := by
  rw [← failure?_eq_some, failure?_mapM, List.findSome?_eq_some_iff]
  simp only [failure?_eq_some, failure?_eq_none]

/-- What is done for all items has its results exactly if it fails for none of them. -/
theorem exists_mapM_eq_ok {α β : Type} {action : α → Except Failure β} {items : List α} :
    (∃ results, items.mapM action = .ok results) ↔ ∀ item ∈ items, ∃ result, action item = .ok result := by
  rw [← failure?_eq_none, failure?_mapM, List.findSome?_eq_none_iff]
  simp only [failure?_eq_none]

/-- What is wrong with a name. -/
def Identifier.faults (name : String) : List Failure :=
  match validate name [] with
  | .error fault => [.ofIdentifier fault]
  | .ok () => []

/-- What is wrong with the tag of a field. -/
def Field.tagFaults (field : Field) : List Failure :=
  match field.tag with
  | none => [.missingTag field.name]
  | some tag => Identifier.faults tag

/-- What is wrong with the type of a field. -/
def Field.typeFaults (field : Field) : List Failure :=
  match StorageType.ofShape? field.shape with
  | none => [.unsupportedType field.name field.shape.describe]
  | some _ => []

/-- The names that stand behind one of the same, in order. -/
def repeatedNames (names : List String) : List String :=
  (names.zipIdx.filter fun entry => (names.take entry.2).contains entry.1).map Prod.fst

/-- A name behind others is repeated if it is one of them. -/
theorem repeatedNames_append (names : List String) (last : String) :
    repeatedNames (names ++ [last]) =
      repeatedNames names ++ if last ∈ names then [last] else [] := by
  -- The names in front stand behind the same names as before.
  have front : (names.zipIdx.filter fun entry => ((names ++ [last]).take entry.2).contains entry.1) =
      names.zipIdx.filter fun entry => (names.take entry.2).contains entry.1 := by
    refine List.filter_congr fun entry member => ?_
    have inside : entry.2 ≤ names.length := Nat.le_of_lt (List.snd_lt_of_mem_zipIdx member)
    rw [List.take_append_of_le_length inside]
  unfold repeatedNames
  rw [List.zipIdx_append, List.filter_append, List.map_append, front]
  by_cases held : last ∈ names <;> simp [held]

/-- No name is repeated exactly if all are different. -/
theorem repeatedNames_eq_nil {names : List String} : repeatedNames names = [] ↔ names.Nodup := by
  -- The induction is on the end of the list, where the next name meets all that stand before it.
  induction names using List.reverseRecOn with
  | nil => exact ⟨fun _ => List.nodup_nil, fun _ => rfl⟩
  | append_singleton names last ih =>
    rw [repeatedNames_append, List.append_eq_nil_iff, ih,
      (List.perm_append_singleton last names).nodup_iff, List.nodup_cons]
    by_cases held : last ∈ names <;> simp [held]

/-- The first repeated name stands behind different names, and is one of them. -/
theorem head?_repeatedNames {names : List String} {name : String} :
    (repeatedNames names).head? = some name ↔
      ∃ before behind, names = before ++ name :: behind ∧ before.Nodup ∧ name ∈ before := by
  induction names using List.reverseRecOn with
  | nil => simp [repeatedNames]
  | append_singleton names last ih =>
    rw [repeatedNames_append, List.head?_append, Option.or_eq_some_iff, ih]
    constructor
    · rintro (⟨before, behind, rfl, distinct, held⟩ | ⟨unrepeated, found⟩)
      · exact ⟨before, behind ++ [last], by simp, distinct, held⟩
      · -- Nothing is repeated in front of the last name, so it is the first that is.
        have distinct := repeatedNames_eq_nil.mp (List.head?_eq_none_iff.mp unrepeated)
        by_cases held : last ∈ names
        · rw [if_pos held, List.head?_cons, Option.some.injEq] at found
          subst found
          exact ⟨names, [], rfl, distinct, held⟩
        · simp [held] at found
    · rintro ⟨before, behind, split, distinct, held⟩
      -- Either more names follow the repeated one, or it is the last.
      rcases List.eq_nil_or_concat behind with rfl | ⟨others, final, rfl⟩
      · obtain ⟨rfl, same⟩ := List.append_inj' split rfl
        obtain rfl := List.singleton_inj.mp same
        exact .inr ⟨by rw [repeatedNames_eq_nil.mpr distinct]; rfl, by rw [if_pos held]; rfl⟩
      · rw [List.concat_eq_append, ← List.cons_append, ← List.append_assoc] at split
        obtain ⟨rfl, _⟩ := List.append_inj' split rfl
        exact .inl ⟨before, others, rfl, distinct, held⟩

/-- Everything that is wrong with the names of a table: with its own, and then with that of its schema. -/
def Table.faults (table : Table) : List Failure :=
  Identifier.faults table.name ++ table.schema.toList.flatMap Identifier.faults

/-- What keeps a layout from having columns: all that is wrong with its tags, and then repeated columns. -/
def Layout.columnFaults (layout : Layout) : List Failure :=
  (Layout.leaves layout).flatMap Field.tagFaults ++
    (repeatedNames ((Layout.leaves layout).filterMap (·.tag))).map .duplicateColumn

/-- Everything that is wrong with the types of a layout. -/
def Layout.typeFaults (layout : Layout) : List Failure :=
  (Layout.leaves layout).flatMap Field.typeFaults

/-- The names of a table are refused for the first thing that is wrong with them. -/
theorem Table.failure?_validate (table : Table) : failure? table.validate = table.faults.head? := by
  -- The name of the schema is looked at only behind a good name of the table.
  unfold Table.validate Table.faults Identifier.faults
  cases Identifier.validate table.name [] with
  | error fault => rfl
  | ok _ =>
    cases table.schema with
    | none => rfl
    | some schema =>
      show failure? ((Identifier.validate schema []).mapError .ofIdentifier) =
        ([schema].flatMap Identifier.faults).head?
      rw [List.flatMap_singleton]
      unfold Identifier.faults
      cases Identifier.validate schema [] <;> rfl

/-- A field is refused for its tag, and otherwise becomes the column that stores it. -/
theorem Column.failure?_ofField (leaf : Field) : failure? (ofField leaf) = leaf.tagFaults.head? := by
  -- A tag has at most one thing wrong with it.
  unfold ofField Field.tagFaults Identifier.faults
  cases leaf.tag with
  | none => rfl
  | some tag => cases checked : Identifier.validate tag [] <;> simp [checked, failure?]

/-- The first name that repeats an earlier one is the first of all that do. -/
theorem Column.firstRepeated?_eq (columns : List Column) :
    firstRepeated? [] columns = (repeatedNames (columns.map (·.name))).head? := by
  -- The names passed over are those in front of the rest, in whatever order they are kept.
  suffices passed : ∀ before seen, (∀ name, name ∈ seen ↔ name ∈ before) →
      firstRepeated? seen columns =
        (((columns.map (·.name)).zipIdx before.length).filter fun entry =>
          ((before ++ columns.map (·.name)).take entry.2).contains entry.1).head?.map Prod.fst by
    have all := passed [] [] fun _ => Iff.rfl
    rw [all, repeatedNames, List.head?_map]
    rfl
  induction columns with
  | nil => exact fun _ _ _ => rfl
  | cons column rest ih =>
    intro before seen same
    have held : ((before ++ (column :: rest).map (·.name)).take before.length).contains column.name =
        seen.contains column.name := by
      rw [List.take_left, Bool.eq_iff_iff, List.contains_iff_mem, List.contains_iff_mem]
      exact (same column.name).symm
    have next := ih (before ++ [column.name]) (column.name :: seen) (by simp [same, or_comm])
    rw [firstRepeated?, List.map_cons, List.zipIdx_cons, List.filter_cons, ← List.map_cons, held]
    split
    · -- The name was there before, and so it is the first of the repeated ones.
      rfl
    · rw [next, List.length_append, List.length_singleton, List.append_assoc]
      rfl

/-- A layout without columns is refused for the first thing that keeps it from having them. -/
theorem Layout.failure?_columns (layout : Layout) :
    failure? layout.columns = layout.columnFaults.head? := by
  -- What is wrong with a tag comes first, and repeated names are those of the columns that were made.
  have tags := failure?_mapM Column.ofField (Layout.leaves layout)
  simp only [Column.failure?_ofField] at tags
  unfold Layout.columns Layout.columnFaults
  rw [List.head?_append, List.head?_flatMap, ← tags, List.head?_map]
  cases made : (Layout.leaves layout).mapM Column.ofField with
  | error failure => rfl
  | ok columns =>
    have names : columns.map (·.name) = (Layout.leaves layout).filterMap (·.tag) := by
      rw [← Column.map_toField_ofField made, List.filterMap_map]
      exact (congrFun List.filterMap_eq_map columns).symm
    rw [← names, ← Column.firstRepeated?_eq]
    dsimp only
    cases Column.firstRepeated? [] columns <;> rfl

/-- A column without a type is refused for what is wrong with that of its field. -/
theorem Column.failure?_storage (column : Column) :
    failure? column.storage = column.toField.typeFaults.head? := by
  unfold Column.storage Field.typeFaults Column.toField
  cases StorageType.ofShape? column.shape <;> rfl

/-- The types of the columns of a layout are refused for the first thing that is wrong with those of its fields. -/
theorem Layout.failure?_storages {layout : Layout} {columns : List Column}
    (flattened : layout.columns = .ok columns) :
    failure? (Column.storages columns) = layout.typeFaults.head? := by
  -- The columns are looked through in order, and each has the type of its field.
  have types := failure?_mapM Column.storage columns
  simp only [Column.failure?_storage] at types
  unfold Layout.typeFaults
  rw [← Layout.map_toField_columns flattened, List.flatMap_map, List.head?_flatMap]
  exact types

end RecordTables
