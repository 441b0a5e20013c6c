import RecordTables.Column.Layout

/-! The columns of a layout have different names, and store its fields in the order of their declaration. -/

namespace RecordTables

/-- When no name repeats an earlier one, all names are different and none was seen before. -/
theorem Column.firstRepeated?_none {seen : List String} {columns : List Column}
    (none : Column.firstRepeated? seen columns = none) :
    (columns.map (·.name)).Nodup ∧ ∀ column ∈ columns, column.name ∉ seen := by
  -- The names passed over are kept as seen, so the tail repeats neither them nor the head.
  induction columns generalizing seen with
  | nil => simp
  | cons column rest ih =>
    unfold Column.firstRepeated? at none
    split at none
    · simp at none
    · rename_i unseen
      obtain ⟨distinct, apart⟩ := ih none
      have unseen : column.name ∉ seen := by simpa using unseen
      -- The head's name is among those that the tail may not repeat.
      have head : column.name ∉ rest.map (·.name) := by
        intro member
        obtain ⟨later, within, same⟩ := List.mem_map.mp member
        exact apart later within (by simp [same])
      refine ⟨List.nodup_cons.mpr ⟨head, distinct⟩, ?_⟩
      intro later member
      rcases List.mem_cons.mp member with same | within
      · exact same ▸ unseen
      · exact fun earlier => apart later within (List.mem_cons_of_mem _ earlier)

/-- The columns that a layout flattens into have different names. -/
theorem Layout.columns_nodup {layout : Layout} {columns : List Column}
    (flattened : layout.columns = .ok columns) : (columns.map (·.name)).Nodup := by
  -- Of the three ways through a layout only the last one gives columns.
  unfold Layout.columns at flattened
  split at flattened
  · simp at flattened
  · rename_i found _
    split at flattened
    · simp at flattened
    · rename_i unrepeated
      simp only [Except.ok.injEq] at flattened
      subst flattened
      exact (Column.firstRepeated?_none unrepeated).1

/-- Where something is done for all items, it is done for the first one and for all others. -/
theorem mapM_cons_ok {α β : Type} {action : α → Except Failure β} {first : α} {rest : List α}
    {results : List β} (done : (first :: rest).mapM action = .ok results) :
    ∃ result others, action first = .ok result ∧ rest.mapM action = .ok others ∧
      results = result :: others := by
  -- A failure of either would be the failure of all.
  rw [List.mapM_cons] at done
  cases head : action first with
  | error failure => simp [head, Bind.bind, Except.bind] at done
  | ok result =>
    cases tail : rest.mapM action with
    | error failure => simp [head, tail, Bind.bind, Except.bind] at done
    | ok others =>
      simp only [head, tail, Bind.bind, Except.bind, Pure.pure, Except.pure, Except.ok.injEq] at done
      exact ⟨result, others, rfl, rfl, done.symm⟩

/-- The field that a column stores. -/
def Column.toField (column : Column) : Field :=
  ⟨column.field, some column.name, column.shape, column.constraints⟩

/-- A column stores the field that it is made of. -/
theorem Column.toField_ofField {leaf : Field} {column : Column} (made : ofField leaf = .ok column) :
    column.toField = leaf := by
  -- A field that a column is made of has a tag, which is the name of the column.
  obtain ⟨name, tag, shape, constraints⟩ := leaf
  unfold ofField at made
  cases tag with
  | none => simp at made
  | some tag =>
    cases checked : Identifier.validate tag [] with
    | error fault => simp [checked] at made
    | ok _ =>
      simp only [checked, Except.ok.injEq] at made
      subst made
      rfl

/-- The columns that are made of some fields store these fields in their order. -/
theorem Column.map_toField_ofField {leaves : List Field} {columns : List Column}
    (made : leaves.mapM ofField = .ok columns) : columns.map toField = leaves := by
  -- Each column is made of the field in its place.
  induction leaves generalizing columns with
  | nil =>
    simp only [List.mapM_nil, Pure.pure, Except.pure, Except.ok.injEq] at made
    subst columns
    rfl
  | cons leaf rest ih =>
    obtain ⟨column, others, head, tail, rfl⟩ := mapM_cons_ok made
    rw [List.map_cons, toField_ofField head, ih tail]

/-- The columns of a layout store its fields in the order of their declaration. -/
theorem Layout.map_toField_columns {layout : Layout} {columns : List Column}
    (flattened : layout.columns = .ok columns) : columns.map Column.toField = Layout.leaves layout := by
  -- Neither a bad tag nor a repeated name leaves any columns, and otherwise each leaf
  -- has been made a column.
  unfold Layout.columns at flattened
  split at flattened
  · cases flattened
  · rename_i found made
    split at flattened
    · cases flattened
    · rw [← Except.ok.inj flattened]
      exact Column.map_toField_ofField made

/-- The columns of a layout keep the names of its fields in the order of their declaration. -/
theorem Layout.fields_columns {layout : Layout} {columns : List Column}
    (flattened : layout.columns = .ok columns) :
    columns.map (·.field) = (Layout.leaves layout).map (·.name) := by
  rw [← Layout.map_toField_columns flattened, List.map_map]
  rfl

end RecordTables
