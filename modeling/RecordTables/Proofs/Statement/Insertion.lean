import Mathlib.Data.List.Forall2
import RecordTables.Proofs.Column.Faults
import RecordTables.Proofs.Memory.Row
import RecordTables.Proofs.Statement.ChangeReader

/-!
A record goes into a table on a server as it goes into a table in memory: it is refused for the same
missing value, or the statement says in its columns, its placeholders and its values what the row holds.
-/

namespace RecordTables

/-- Two outcomes are the same failure, or results that are related. -/
def SameOutcome {α β : Type} (related : α → β → Prop) : Except Failure α → Except Failure β → Prop
  | .error failure, .error other => failure = other
  | .ok result, .ok other => related result other
  | _, _ => False

/-- What is made of one outcome in two ways is the same if the results are related. -/
theorem sameOutcome_map {α β γ : Type} {related : β → γ → Prop} {outcome : Except Failure α}
    {change : α → β} {other : α → γ}
    (made : ∀ result, outcome = .ok result → related (change result) (other result)) :
    SameOutcome related (outcome.map change) (outcome.map other) := by
  -- A failure is passed on by both.
  cases outcome with
  | error failure => exact rfl
  | ok result => exact made result rfl

/-- With an outcome that is a result, the same one is a result that is related to it. -/
theorem SameOutcome.ok {α β : Type} {related : α → β → Prop} {result : α} {outcome : Except Failure β}
    (same : SameOutcome related (.ok result) outcome) :
    ∃ other, outcome = .ok other ∧ related result other := by
  -- A result and a failure are never the same.
  cases outcome with
  | error failure => exact same.elim
  | ok other => exact ⟨other, rfl, same⟩

namespace Statement

section Params

variable {columns : List Column}

/-- The values for the placeholders are those that are taken under the fields of the columns. -/
theorem typedParams_eq {types : List StorageType} (typed : Column.storages columns = .ok types)
    (record : Record) :
    typedParams columns record =
      (Record.takeValues (columns.map (·.field)) record).map (List.zipWith TypedParam.mk types) := by
  -- No column is without a type, so only a missing value ends the walk along the columns.
  induction columns generalizing types record with
  | nil => simp [typedParams, Record.takeValues, Except.map]
  | cons column rest ih =>
    obtain ⟨storage, others, head, tail, rfl⟩ := mapM_cons_ok typed
    rw [typedParams, List.map_cons, Record.takeValues]
    cases record.get? column.field with
    | none => rfl
    | some value =>
      simp only [head, ih tail]
      cases Record.takeValues (rest.map (·.field)) (record.erase column.field) <;> rfl

/-- Each value for a placeholder has the type of its column and is what the record has for its field. -/
theorem typedParams_ok {record : Record} {params : List TypedParam}
    (taken : typedParams columns record = .ok params) :
    List.Forall₂ (fun column param => column.storage = .ok param.storage ∧
      record.get? column.field = some param.value) columns params := by
  -- The first value comes from the record, and all others from what is left of it.
  induction columns generalizing record params with
  | nil =>
    cases taken
    exact .nil
  | cons column rest ih =>
    unfold typedParams at taken
    cases found : record.get? column.field with
    | none => simp [found] at taken
    | some value =>
      cases known : column.storage with
      | error failure => simp [found, known] at taken
      | ok storage =>
        cases tail : typedParams rest (record.erase column.field) with
        | error failure => simp [found, known, tail, Except.map] at taken
        | ok others =>
          simp only [found, known, tail, Except.map, Except.ok.injEq] at taken
          subst taken
          -- A value that is left once one was taken was there before.
          refine .cons ⟨known, found⟩ ((ih tail).imp ?_)
          rintro later param ⟨typed, held⟩
          rw [Dictionary.get?_erase] at held
          split at held
          · cases held
          · exact ⟨typed, held⟩

/-- The statement that inserts a record has the values that are taken under the fields of the columns. -/
theorem insert_eq {types : List StorageType} (typed : Column.storages columns = .ok types)
    (reference : String) (record : Record) :
    insert reference columns record =
      (Record.takeValues (columns.map (·.field)) record).map fun values =>
        ⟨insertText reference columns, List.zipWith TypedParam.mk types values⟩ := by
  rw [insert, typedParams_eq typed]
  cases Record.takeValues (columns.map (·.field)) record <;> rfl

end Params

/--
A record goes into a table on a server as it does in memory. Both refuse it for the same missing value, of
the first field that finds none in the record, or the statement names the columns in order, has a placeholder
with its number for each, and its values have the types of the columns and are what the row holds
in them. What the record has beside the fields of the layout does not matter.
-/
theorem insert_as_in_memory {layout : Layout} {columns : List Column} {types : List StorageType}
    (flattened : layout.columns = .ok columns) (typed : Column.storages columns = .ok types)
    (table : Table) (record : Record) :
    SameOutcome (fun row insertion =>
        readInsertion? insertion.sql =
          some ⟨table.schema, table.name, columns.map (·.name), List.range' 1 columns.length⟩ ∧
        List.Forall₂ (fun column param => column.storage = .ok param.storage ∧
          row.get? column.name = some param.value) columns insertion.params)
      (Row.ofRecord columns record) (insert table.reference columns record) ∧
    (∀ failure, Row.ofRecord columns record = .error failure ↔
      ∃ field, record.Misses ((Layout.leaves layout).map (·.name)) field ∧
        failure = .missingValue field) ∧
    ∀ other : Record,
      (∀ leaf ∈ Layout.leaves layout, other.get? leaf.name = record.get? leaf.name) →
      Row.ofRecord columns other = Row.ofRecord columns record ∧
        insert table.reference columns other = insert table.reference columns record := by
  -- Both take the same values out of the record, and make of them a row and a statement.
  refine ⟨?_, ?_, ?_⟩
  · rw [Row.ofRecord_eq, insert_eq typed]
    refine sameOutcome_map fun values taken => ⟨readInsertion?_insertText table columns, ?_⟩
    have filled : Row.ofRecord columns record = .ok (Row.store Dictionary.empty columns values) := by
      rw [Row.ofRecord_eq, taken]
      rfl
    have given : typedParams columns record = .ok (List.zipWith TypedParam.mk types values) := by
      rw [typedParams_eq typed, taken]
      rfl
    -- The row and the values for the placeholders agree with the record, and so with each other.
    obtain ⟨_, cells, _⟩ := Row.fill_ok (Layout.columns_nodup flattened) filled
    refine ((List.forall₂_and_left _ _).mpr ⟨cells, typedParams_ok given⟩).imp ?_
    rintro column param ⟨⟨value, held, stored⟩, known, found⟩
    rw [held, Option.some.injEq] at found
    exact ⟨known, found ▸ stored⟩
  · intro failure
    rw [Row.ofRecord_eq, map_eq_error, Layout.fields_columns flattened]
    exact Record.takeValues_eq_error
  · intro other same
    have taken : Record.takeValues (columns.map (·.field)) other =
        Record.takeValues (columns.map (·.field)) record := by
      refine Record.takeValues_congr ?_
      rw [Layout.fields_columns flattened]
      exact List.forall_mem_map.mpr same
    simp only [Row.ofRecord_eq, insert_eq typed, taken, and_self]

/-- A layout with a key, and a weight in a group. -/
def parcelLayout : Layout := [.field ⟨"code", some "id", .text, ⟨true, false, false⟩⟩,
  .group "measures" [.field ⟨"weight", some "grams", .signed 32, .none⟩]]

/-- The columns of parcels. -/
def parcelColumns : List Column :=
  [⟨"code", "id", .text, ⟨true, false, false⟩⟩, ⟨"weight", "grams", .signed 32, .none⟩]

/-- The record of a parcel, with a note that has no column. -/
def parcelRecord : Record :=
  ((Dictionary.empty.insert "code" (.text "k7")).insert "note" .null).insert "weight" (.boolean true)

/-- The table of parcels. -/
def parcels : Table := Table.withSchema "depot" (.named "parcels")

/-- A parcel goes into its two columns whatever its note is, and without its weight into none. -/
theorem insert_as_in_memory_parcels :
    parcelLayout.columns = .ok parcelColumns ∧
    Column.storages parcelColumns = .ok [.text, .integer] ∧
    (∃ row insertion, Row.ofRecord parcelColumns parcelRecord = .ok row ∧
      insert parcels.reference parcelColumns parcelRecord = .ok insertion ∧
      readInsertion? insertion.sql = some ⟨some "depot", "parcels", ["id", "grams"], [1, 2]⟩ ∧
      List.Forall₂ (fun column param => column.storage = .ok param.storage ∧
        row.get? column.name = some param.value) parcelColumns insertion.params) ∧
    Row.ofRecord parcelColumns (parcelRecord.erase "weight") = .error (.missingValue "weight") ∧
    insert parcels.reference parcelColumns (parcelRecord.erase "note") =
      insert parcels.reference parcelColumns parcelRecord := by
  have flattened : parcelLayout.columns = .ok parcelColumns := rfl
  have typed : Column.storages parcelColumns = .ok [.text, .integer] := rfl
  -- The row is made in memory, and the theorem has the statement that goes with it.
  obtain ⟨same, _, independent⟩ := insert_as_in_memory flattened typed parcels parcelRecord
  obtain ⟨row, made⟩ : ∃ row, Row.ofRecord parcelColumns parcelRecord = .ok row := ⟨_, rfl⟩
  rw [made] at same
  obtain ⟨insertion, compiled, text, given⟩ := same.ok
  obtain ⟨_, refused, _⟩ :=
    insert_as_in_memory flattened typed parcels (parcelRecord.erase "weight")
  -- Without the weight its column finds no value, and the note belongs to no column.
  have misses : Record.Misses (parcelRecord.erase "weight") ["code", "weight"] "weight" :=
    ⟨["code"], [], rfl, by decide, by decide, .inr (by decide)⟩
  have beside : ∀ leaf ∈ Layout.leaves parcelLayout, "note" ≠ leaf.name := by decide
  refine ⟨flattened, typed, ⟨row, insertion, made, compiled, text, given⟩,
    (refused _).mpr ⟨"weight", misses, rfl⟩, (independent _ fun leaf member => ?_).2⟩
  rw [Dictionary.get?_erase, if_neg (beside leaf member)]

end Statement

end RecordTables
