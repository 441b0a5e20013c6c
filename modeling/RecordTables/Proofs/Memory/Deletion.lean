import RecordTables.Proofs.Memory.Insertion

/-!
Deleting by a key takes out the one row that holds it, if there is one, and leaves all others in their order.
So it undoes an insertion exactly, and deleting once more finds nothing.
-/

namespace RecordTables

namespace MemoryTable

section Keyed

variable {table : MemoryTable} {column : Column} {key : String}
  (keyed : table.columns.find? (fun column => column.constraints.primaryKey) = some column)

include keyed

/-- A row is deleted exactly if its first key column holds the text. -/
theorem hasKey_iff {row : Row} : table.hasKey key row = true ↔ row.cell column.name = .text key := by
  rw [hasKey, Column.keyName, keyed]
  exact Value.same_text

/-- Rows none of which holds the key are all kept. -/
theorem filter_absent {rows : List Row} (absent : ∀ row ∈ rows, row.cell column.name ≠ .text key) :
    (rows.filter fun row => !table.hasKey key row) = rows := by
  -- A row without the key is not one to be taken out.
  refine List.filter_eq_self.mpr fun row member => ?_
  rw [Bool.not_eq_true', ← Bool.not_eq_true, hasKey_iff keyed]
  exact absent row member

/-- Deleting a key that no row holds changes nothing. -/
theorem delete_absent (absent : ∀ row ∈ table.rows, row.cell column.name ≠ .text key) :
    table.delete key = (0, table) := by
  simp only [delete, filter_absent keyed absent, Nat.sub_self]

/-- Deleting a key that one row holds takes out this row. -/
theorem delete_single {before behind : List Row} {row : Row}
    (split : table.rows = before ++ row :: behind) (held : row.cell column.name = .text key)
    (apart : ∀ other ∈ before ++ behind, other.cell column.name ≠ .text key) :
    table.delete key = (1, { table with rows := before ++ behind }) := by
  -- Neither the rows in front of the one with the key nor those behind it are touched.
  obtain ⟨front, back⟩ := List.forall_mem_append.mp apart
  have found := (hasKey_iff keyed).mpr held
  have kept : (table.rows.filter fun row => !table.hasKey key row) = before ++ behind := by
    rw [split, List.filter_append, List.filter_cons, filter_absent keyed front,
      filter_absent keyed back, found]
    rfl
  have fewer : (before ++ row :: behind).length - (before ++ behind).length = 1 := by
    simp only [List.length_append, List.length_cons]
    omega
  simp only [delete, kept]
  rw [split, fewer]

/-- A key is held by no row, and deleting it changes nothing, or it is held by one row and takes out this one. -/
theorem Consistent.delete_cases (consistent : table.Consistent) (key : String) :
    ((∀ row ∈ table.rows, row.cell column.name ≠ .text key) ∧ table.delete key = (0, table)) ∨
    ∃ before row behind, table.rows = before ++ row :: behind ∧ row.cell column.name = .text key ∧
      (∀ other ∈ before ++ behind, other.cell column.name ≠ .text key) ∧
      table.delete key = (1, { table with rows := before ++ behind }) := by
  -- A row that holds the key splits the rows, and no other can hold it then.
  by_cases held : ∃ row ∈ table.rows, row.cell column.name = .text key
  · obtain ⟨row, member, held⟩ := held
    obtain ⟨before, behind, split⟩ := List.append_of_mem member
    have apart := consistent.others_differ keyed split held
    exact .inr ⟨before, row, behind, split, held, apart, delete_single keyed split held apart⟩
  · have absent : ∀ row ∈ table.rows, row.cell column.name ≠ .text key :=
      fun row member same => held ⟨row, member, same⟩
    exact .inl ⟨absent, delete_absent keyed absent⟩

end Keyed

/--
In a table with a key, deleting the key of a record right after its insertion gives back the table as it
was, so that the record can be inserted again. Deleting any key takes out the one row that holds it and
leaves all others in their order, or changes nothing if there is none; and the second time there is none.
-/
theorem deletion_undoes_insertion {layout : Layout} {table : MemoryTable} {column : Column}
    (reached : Reached layout table)
    (keyed : table.columns.find? (fun column => column.constraints.primaryKey) = some column) :
    (∀ record after key, table.insert record = .ok (1, after) →
      record.get? column.field = some (.text key) →
      after.delete key = (1, table) ∧ (after.delete key).2.insert record = .ok (1, after)) ∧
    ∀ key,
      (((∀ row ∈ table.rows, row.cell column.name ≠ .text key) ∧ table.delete key = (0, table)) ∨
        ∃ before row behind, table.rows = before ++ row :: behind ∧
          row.cell column.name = .text key ∧
          (∀ other ∈ before ++ behind, other.cell column.name ≠ .text key) ∧
          table.delete key = (1, { table with rows := before ++ behind })) ∧
      (table.delete key).2.delete key = (0, (table.delete key).2) := by
  obtain ⟨flattened, consistent⟩ := reached.consistent
  have names := Layout.columns_nodup flattened
  constructor
  · intro record after key insertion written
    -- The new row is the last one, and is alone in holding its key.
    have kept := consistent.insert names insertion
    obtain ⟨row, made, grown⟩ := insert_counted insertion
    have keyedAfter :
        after.columns.find? (fun column => column.constraints.primaryKey) = some column := by
      rw [grown]
      exact keyed
    have split : after.rows = table.rows ++ [row] := by rw [grown]
    have cell := Row.cell_ofRecord names made column (List.mem_of_find?_eq_some keyed)
    have held : row.cell column.name = .text key := Option.some.inj (cell.symm.trans written)
    have apart := kept.others_differ keyedAfter split held
    have undone : after.delete key = (1, table) := by
      rw [delete_single keyedAfter split held apart, grown, List.append_nil]
    -- With the table back as it was, the insertion counts as it did before.
    refine ⟨undone, ?_⟩
    rw [undone]
    exact insertion
  · intro key
    have cases := consistent.delete_cases keyed key
    refine ⟨cases, ?_⟩
    -- No row that is left holds the key.
    rcases cases with ⟨_, done⟩ | ⟨before, row, behind, _, _, apart, done⟩
    · rw [done, done]
    · rw [done]
      exact delete_absent keyed apart

open MemoryHandles (lockerLayout lockerRow lockerRecord lockers)

/-- A second locker is taken, given up and taken again, and the first one can be given up only once. -/
theorem deletion_undoes_insertion_lockers :
    let one := lockers [lockerRow "a" (.text "Ada")]
    let two := lockers [lockerRow "a" (.text "Ada"), lockerRow "b" (.text "Bo")]
    one.insert (lockerRecord "b" (.text "Bo")) = .ok (1, two) ∧ two.delete "b" = (1, one) ∧
      (two.delete "b").2.insert (lockerRecord "b" (.text "Bo")) = .ok (1, two) ∧
      (one.delete "a").2.delete "a" = (0, (one.delete "a").2) := by
  intro one two
  have created : MemoryTable.create (.named "lockers") lockerLayout = .ok (lockers []) := rfl
  have first : (lockers []).insert (lockerRecord "a" (.text "Ada")) = .ok (1, one) := rfl
  have second : one.insert (lockerRecord "b" (.text "Bo")) = .ok (1, two) := rfl
  -- The first locker stands in a reached table, so that all of the theorem is known of it.
  obtain ⟨undone, deleted⟩ := deletion_undoes_insertion (.inserted (.created created) first)
    (show one.columns.find? (fun column => column.constraints.primaryKey) =
      some ⟨"number", "id", .text, ⟨true, false, false⟩⟩ from rfl)
  obtain ⟨removed, again⟩ := undone _ _ "b" second rfl
  exact ⟨second, removed, again, (deleted "a").2⟩

end MemoryTable

end RecordTables
