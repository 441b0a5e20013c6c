import RecordTables.Memory.Row
import RecordTables.Proofs.Record
import RecordTables.Proofs.Value.Equality

/-! Rows made from records have a value in every column and give the records back; and a filter for a value finds its equals. -/

namespace RecordTables

namespace Row

/-- Filling a row adds the names of the columns and no others. -/
theorem names_fill {columns : List Column} {row filled : Row} {record : Record}
    (distinct : (columns.map (·.name)).Nodup) (fresh : ∀ column ∈ columns, column.name ∉ row.names)
    (filling : fill row columns record = .ok filled) :
    filled.names.Perm (columns.map (·.name) ++ row.names) := by
  -- The columns come one at a time, and none of their names is in the row yet.
  induction columns generalizing row record with
  | nil =>
    simp only [fill, Except.ok.injEq] at filling
    subst filled
    exact List.Perm.refl _
  | cons column rest ih =>
    obtain ⟨apart, distinct⟩ := List.nodup_cons.mp distinct
    unfold fill at filling
    split at filling
    · simp at filling
    · rename_i value _
      have grown : (row.insert column.name value).names.Perm (column.name :: row.names) :=
        Dictionary.names_insert (fresh column List.mem_cons_self)
      -- With this name in the row the others still have names that are not.
      have stillFresh : ∀ later ∈ rest, later.name ∉ (row.insert column.name value).names := by
        intro later member within
        rcases List.mem_cons.mp (grown.mem_iff.mp within) with same | before
        · exact apart (List.mem_map.mpr ⟨later, member, same⟩)
        · exact fresh later (List.mem_cons_of_mem _ member) before
      have tail := ih distinct stillFresh filling
      exact tail.trans ((grown.append_left _).trans List.perm_middle)

/-- The row of a record has exactly the names of the columns. -/
theorem names_ofRecord {columns : List Column} {record : Record} {row : Row}
    (distinct : (columns.map (·.name)).Nodup) (made : ofRecord columns record = .ok row) :
    row.names.Perm (columns.map (·.name)) := by
  have filled := names_fill distinct (fun _ _ => List.not_mem_nil) made
  simpa [Dictionary.names, Dictionary.empty] using filled

/--
A row that was filled holds under each column what the record has for its field, and no two columns
have one field, as each field is taken out of the record when its column comes.
-/
theorem fill_ok {columns : List Column} {row filled : Row} {record : Record}
    (distinct : (columns.map (·.name)).Nodup) (filling : fill row columns record = .ok filled) :
    (columns.map (·.field)).Nodup ∧
      (∀ column ∈ columns, ∃ value, record.get? column.field = some value ∧
        filled.get? column.name = some value) ∧
      ∀ name, name ∉ columns.map (·.name) → filled.get? name = row.get? name := by
  -- The columns come one at a time; the record that is left for the others lacks the field.
  induction columns generalizing row record with
  | nil =>
    simp only [fill, Except.ok.injEq] at filling
    subst filled
    exact ⟨List.nodup_nil, fun _ impossible => absurd impossible List.not_mem_nil, fun _ _ => rfl⟩
  | cons column rest ih =>
    obtain ⟨apart, distinct⟩ := List.nodup_cons.mp distinct
    unfold fill at filling
    split at filling
    · simp at filling
    · rename_i value found
      obtain ⟨fields, cells, others⟩ := ih distinct filling
      -- What the rest finds is found in the whole record too, under a field that is not this one.
      have left : ∀ later ∈ rest, ∃ value, column.field ≠ later.field ∧
          record.get? later.field = some value ∧ filled.get? later.name = some value := by
        intro later member
        obtain ⟨held, taken, stored⟩ := cells later member
        rw [Dictionary.get?_erase] at taken
        split at taken
        · cases taken
        · rename_i different
          exact ⟨held, different, taken, stored⟩
      refine ⟨List.nodup_cons.mpr ⟨?_, fields⟩, List.forall_mem_cons.mpr ⟨?_, ?_⟩, ?_⟩
      · intro member
        obtain ⟨later, within, same⟩ := List.mem_map.mp member
        obtain ⟨_, different, _⟩ := left later within
        exact different same.symm
      · refine ⟨value, found, ?_⟩
        rw [others column.name apart, Dictionary.get?_insert, if_pos rfl]
      · intro later member
        obtain ⟨held, _, taken, stored⟩ := left later member
        exact ⟨held, taken, stored⟩
      -- A name that is none of the columns was passed by each of them.
      · intro name unlisted
        obtain ⟨different, later⟩ := not_or.mp (mt List.mem_cons.mpr unlisted)
        rw [others name later, Dictionary.get?_insert, if_neg (Ne.symm different)]

/-- The row of a record has in each column what the record has for its field. -/
theorem cell_ofRecord {columns : List Column} {record : Record} {row : Row}
    (distinct : (columns.map (·.name)).Nodup) (made : ofRecord columns record = .ok row) :
    ∀ column ∈ columns, record.get? column.field = some (row.cell column.name) := by
  -- With distinct names no later column overwrites the cell of this one.
  intro column member
  obtain ⟨_, cells, _⟩ := fill_ok distinct made
  obtain ⟨value, taken, stored⟩ := cells column member
  rw [taken, cell, stored]
  rfl

/-- The row with values set in columns. -/
def store (row : Row) (columns : List Column) (values : List Value) : Row :=
  (columns.zip values).foldl (fun row entry => row.insert entry.1.name entry.2) row

/-- A row is filled with the values that are taken under the fields of the columns. -/
theorem fill_eq (row : Row) (columns : List Column) (record : Record) :
    fill row columns record =
      (Record.takeValues (columns.map (·.field)) record).map (store row columns) := by
  -- Each value goes into the row in the same step that takes it out of the record.
  induction columns generalizing row record with
  | nil => rfl
  | cons column rest ih =>
    rw [fill, List.map_cons, Record.takeValues]
    cases record.get? column.field with
    | none => rfl
    | some value =>
      dsimp only
      rw [ih]
      cases Record.takeValues (rest.map (·.field)) (record.erase column.field) <;> rfl

/-- The row of a record has the values that are taken under the fields of the columns. -/
theorem ofRecord_eq (columns : List Column) (record : Record) :
    ofRecord columns record =
      (Record.takeValues (columns.map (·.field)) record).map (store Dictionary.empty columns) :=
  fill_eq Dictionary.empty columns record

/-- A record with a value for every field becomes a row, if no two columns have one field. -/
theorem ofRecord_held {columns : List Column} {record : Record}
    (distinct : (columns.map (·.field)).Nodup)
    (held : ∀ field ∈ columns.map (·.field), field ∈ record.names) :
    ∃ row, ofRecord columns record = .ok row := by
  rw [ofRecord_eq, Record.takeValues_held distinct held]
  exact ⟨_, rfl⟩

/-- The record of a row has the cell of each column set under the name of its field. -/
theorem toRecord_eq (columns : List Column) (row : Row) :
    row.toRecord columns =
      Record.setColumns Dictionary.empty columns fun column => row.cell column.name :=
  rfl

/--
A record that became a row is read out of it again, without what it has beside the fields of the
columns; it has a value under each of these fields.
-/
theorem toRecord_ofRecord {columns : List Column} {record : Record} {row : Row}
    (distinct : (columns.map (·.name)).Nodup) (made : ofRecord columns record = .ok row) :
    row.toRecord columns = record.only (columns.map (·.field)) ∧
      (record.only (columns.map (·.field))).names.Perm (columns.map (·.field)) := by
  have fields := (fill_ok distinct made).1
  have cells := cell_ofRecord distinct made
  refine ⟨Dictionary.ext_get? ?_, Dictionary.names_only fields ?_⟩
  · -- Under the field of a column stands its cell, and the cell is what the record had there.
    intro field
    rw [Dictionary.get?_only, toRecord_eq]
    split
    · rename_i listed
      obtain ⟨column, member, rfl⟩ := List.mem_map.mp listed
      rw [Record.get?_setColumns_of_mem _ _ fields member]
      exact (cells column member).symm
    · rename_i unlisted
      exact Record.get?_setColumns_other _ _ unlisted
  · intro field listed
    obtain ⟨column, member, rfl⟩ := List.mem_map.mp listed
    rw [cells column member]
    rfl

end Row

namespace Filter

/-- A value of the kind looked for passes an equality filter exactly when it is equal. -/
theorem accepts_equal {column : String} {value actual : Value} (given : value.isNull = false)
    (alike : actual.kind = value.kind) :
    (Filter.mk column .equal value).accepts actual = actual.same value := by
  -- With a value on both sides and of one kind nothing is unknown.
  have present : actual.isNull = false := (Value.isNull_congr alike).trans given
  simp only [accepts, given, present, alike, Value.sqlSame?, Bool.or_false, Bool.false_eq_true,
    if_false, if_true]
  cases actual.same value <;> rfl

/-- A filter for a text keeps the rows with just this text, as no value of another kind equals one. -/
theorem accepts_text (column key : String) (actual : Value) :
    (Filter.mk column .equal (.text key)).accepts actual = actual.same (.text key) := by
  -- A text is compared, and a value of any other kind is no text.
  cases actual with
  | text value => exact accepts_equal rfl rfl
  | _ => rfl

end Filter

end RecordTables
