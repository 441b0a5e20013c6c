import Mathlib.Data.List.Induction
import Mathlib.Data.List.Nodup
import RecordTables.Column.Layout
import RecordTables.Proofs.Dictionary
import RecordTables.Record

/-!
Taking values out of a record, each under its own name, and setting those of columns in it. What was taken
once is missed under the same name like a value that never was there.
-/

namespace RecordTables

namespace Record

/-- A field whose value fits is taken out of the record. -/
theorem take_of_get? {record : Record} {field : String} (kind : FieldKind) {value : Value}
    {content : kind.Carrier} (held : record.get? field = some value)
    (read : kind.decode value = .ok content) :
    record.take field kind = (.ok content, record.erase field) := by
  simp only [take, held, read, Except.mapError]

/-- A record has nothing that another one does not have as well. -/
def PartOf (part record : Record) : Prop :=
  ∀ name value, part.get? name = some value → record.get? name = some value

/-- Taking a field leaves a part of a record. -/
theorem PartOf.take {part record : Record} (within : part.PartOf record) (field : String)
    (kind : FieldKind) : (part.take field kind).2.PartOf record := by
  unfold Record.take
  split
  · exact within
  · -- What is still there was there before, under a name other than that of the field.
    intro name value found
    rw [Dictionary.get?_erase] at found
    split at found
    · cases found
    · exact within name value found

/--
A field is taken without success exactly if there is none of the name, or if its value does not fit the
kind. The failure is about the field, and it does not name a table.
-/
theorem take_eq_error {record : Record} {field : String} {kind : FieldKind} {failure : Failure} :
    (record.take field kind).1 = .error failure ↔
      (record.get? field = none ∧ failure = .missingValue field) ∨
        ∃ value fault, record.get? field = some value ∧ kind.decode value = .error fault ∧
          failure = .rowScan "" field fault.message := by
  -- The value is missing, or it is there and does not fit.
  unfold take
  cases record.get? field with
  | none => simp [eq_comm]
  | some value => cases decoded : kind.decode value <;> simp [decoded, Except.mapError, eq_comm]

/-- The values under some names, taken out of a record one after the other. -/
def takeValues : List String → Record → Except Failure (List Value)
  | [], _ => .ok []
  | field :: rest, record =>
    match record.get? field with
    | none => .error (.missingValue field)
    | some value => (takeValues rest (record.erase field)).map (value :: ·)

/--
A name is the first of some that finds no value in a record from which the values of those before it
were taken: there never was one, or the same name came before.
-/
def Misses (record : Record) (fields : List String) (field : String) : Prop :=
  ∃ before behind, fields = before ++ field :: behind ∧ before.Nodup ∧
    (∀ earlier ∈ before, earlier ∈ record.names) ∧ (field ∈ before ∨ field ∉ record.names)

/-- Names are all different with a value for each, or there is a first one that finds none. -/
theorem held_or_misses (fields : List String) (record : Record) :
    (fields.Nodup ∧ ∀ field ∈ fields, field ∈ record.names) ∨
      ∃ field, record.Misses fields field := by
  -- What the first names miss is missed with more names behind them, so the last one decides.
  induction fields using List.reverseRecOn with
  | nil => exact .inl ⟨List.nodup_nil, fun _ impossible => absurd impossible List.not_mem_nil⟩
  | append_singleton fields last ih =>
    rcases ih with ⟨distinct, held⟩ | ⟨field, before, behind, rfl, missed⟩
    · by_cases missed : last ∈ fields ∨ last ∉ record.names
      · exact .inr ⟨last, fields, [], rfl, distinct, held, missed⟩
      · obtain ⟨unlisted, there⟩ := not_or.mp missed
        refine .inl ⟨?_, List.forall_mem_append.mpr ⟨held, ?_⟩⟩
        · exact List.nodup_append_comm.mp (List.nodup_cons.mpr ⟨unlisted, distinct⟩)
        · exact List.forall_mem_singleton.mpr (not_not.mp there)
    · exact .inr ⟨field, before, behind ++ [last], by simp, missed⟩

/-- Under different names that all hold a value the values are taken in order. -/
theorem takeValues_held {fields : List String} {record : Record} (distinct : fields.Nodup)
    (held : ∀ field ∈ fields, field ∈ record.names) :
    takeValues fields record = .ok (fields.filterMap record.get?) := by
  -- Each name is gone once its value was taken, and no other name is the same.
  induction fields generalizing record with
  | nil => rfl
  | cons first rest ih =>
    obtain ⟨unlisted, distinct⟩ := List.nodup_cons.mp distinct
    obtain ⟨there, others⟩ := List.forall_mem_cons.mp held
    obtain ⟨value, found⟩ := Option.isSome_iff_exists.mp (Dictionary.mem_names.mp there)
    -- The other names are still there and hold the same once the first one is gone.
    have same : ∀ field ∈ rest, (record.erase first).get? field = record.get? field := by
      intro field member
      have different : first ≠ field := fun taken => unlisted (taken ▸ member)
      rw [Dictionary.get?_erase, if_neg different]
    have left : ∀ field ∈ rest, field ∈ (record.erase first).names := by
      intro field member
      rw [Dictionary.mem_names, same field member]
      exact Dictionary.mem_names.mp (others field member)
    rw [takeValues, found, List.filterMap_cons_some found]
    simp only [ih distinct left, Except.map, List.filterMap_congr same]

/-- The first name that finds no value is the one that is missed. -/
theorem takeValues_missed {fields : List String} {record : Record} {field : String}
    (misses : record.Misses fields field) :
    takeValues fields record = .error (.missingValue field) := by
  -- The names before it find their values, and leave the record without these.
  obtain ⟨before, behind, rfl, distinct, held, missed⟩ := misses
  induction before generalizing record with
  | nil =>
    have gone : record.get? field = none := by simpa [Dictionary.mem_names] using missed
    simp [takeValues, gone]
  | cons first rest ih =>
    obtain ⟨unlisted, distinct⟩ := List.nodup_cons.mp distinct
    obtain ⟨there, others⟩ := List.forall_mem_cons.mp held
    obtain ⟨value, found⟩ := Option.isSome_iff_exists.mp (Dictionary.mem_names.mp there)
    have left : ∀ earlier ∈ rest, earlier ∈ (record.erase first).names := fun earlier member =>
      Dictionary.mem_names_erase.mpr ⟨fun taken => unlisted (taken ▸ member), others earlier member⟩
    -- The name is listed among the others, or it is the first one and gone, or it never was there.
    have tail : field ∈ rest ∨ field ∉ (record.erase first).names := by
      rw [List.mem_cons] at missed
      rw [Dictionary.mem_names_erase]
      rcases missed with (rfl | listed) | absent
      · exact .inr fun within => within.1 rfl
      · exact .inl listed
      · exact .inr fun within => absent within.2
    rw [List.cons_append, takeValues, found]
    simp only [ih distinct left tail, Except.map]

/-- No name misses a value exactly if all are different and have one. -/
theorem nothing_missed_iff {fields : List String} {record : Record} :
    (∀ field, ¬ record.Misses fields field) ↔
      fields.Nodup ∧ ∀ field ∈ fields, field ∈ record.names := by
  constructor
  · intro found
    rcases held_or_misses fields record with held | ⟨field, misses⟩
    · exact held
    · exact absurd misses (found field)
  · rintro ⟨distinct, held⟩ field misses
    -- The values would be taken, and would not be.
    have taken := takeValues_held distinct held
    rw [takeValues_missed misses] at taken
    cases taken

/-- Taking values fails exactly for the first name that finds none. -/
theorem takeValues_eq_error {fields : List String} {record : Record} {failure : Failure} :
    takeValues fields record = .error failure ↔
      ∃ field, record.Misses fields field ∧ failure = .missingValue field := by
  -- Where no name misses a value all values are taken, so there is no other failure.
  constructor
  · intro failed
    rcases held_or_misses fields record with ⟨distinct, held⟩ | ⟨field, misses⟩
    · rw [takeValues_held distinct held] at failed
      cases failed
    · rw [takeValues_missed misses] at failed
      cases failed
      exact ⟨field, misses, rfl⟩
  · rintro ⟨field, misses, rfl⟩
    exact takeValues_missed misses

/-- What a record has under other names does not matter for the values that are taken. -/
theorem takeValues_congr {fields : List String} {record other : Record}
    (same : ∀ field ∈ fields, other.get? field = record.get? field) :
    takeValues fields other = takeValues fields record := by
  -- Records that agree on some names still agree on the others once one is taken out.
  induction fields generalizing record other with
  | nil => rfl
  | cons first rest ih =>
    obtain ⟨head, tail⟩ := List.forall_mem_cons.mp same
    have left : ∀ field ∈ rest,
        (other.erase first).get? field = (record.erase first).get? field := by
      intro field member
      rw [Dictionary.get?_erase, Dictionary.get?_erase, tail field member]
    simp only [takeValues, head, ih left]

/-- The record with a value set for each column, under the name of its field. -/
def setColumns (record : Record) (columns : List Column) (value : Column → Value) : Record :=
  columns.foldl (fun record column => record.insert column.field (value column)) record

section SetColumns

variable (record : Record) {columns : List Column} (value : Column → Value)

/-- Under a name stands the value of the last column whose field has it, and else what was there before. -/
theorem get?_setColumns (columns : List Column) (field : String) :
    (setColumns record columns value).get? field =
      match columns.reverse.find? fun column => column.field == field with
      | some column => some (value column)
      | none => record.get? field := by
  -- The induction is on the columns; a later one of the same field is set over an earlier one.
  induction columns generalizing record with
  | nil => rfl
  | cons column rest ih =>
    show (setColumns (record.insert column.field (value column)) rest value).get? field = _
    rw [ih, List.reverse_cons, List.find?_append]
    cases rest.reverse.find? fun column => column.field == field with
    | some later => rfl
    | none =>
      rw [Dictionary.get?_insert]
      by_cases same : column.field = field <;> simp [same]

/-- Columns with different fields have their values each under its own field. -/
theorem get?_setColumns_of_mem (fields : (columns.map (·.field)).Nodup) {column : Column}
    (member : column ∈ columns) :
    (setColumns record columns value).get? column.field = some (value column) := by
  -- No other column has the field, so the order in which the columns are looked through is no matter.
  have distinct : (columns.reverse.map (·.field)).Nodup := by
    rw [List.map_reverse]
    exact List.nodup_reverse.mpr fields
  rw [get?_setColumns, find?_of_mem distinct (List.mem_reverse.mpr member)]

/-- Under a name that no column has as its field nothing changes. -/
theorem get?_setColumns_other {field : String} (unlisted : field ∉ columns.map (·.field)) :
    (setColumns record columns value).get? field = record.get? field := by
  -- No column has the field, so that no setting was to it.
  have nothing : (columns.reverse.find? fun column => column.field == field) = none := by
    refine List.find?_eq_none.mpr fun column member same => ?_
    exact unlisted (List.mem_map.mpr ⟨column, List.mem_reverse.mp member, by simpa using same⟩)
  rw [get?_setColumns, nothing]

/-- A value that was not there before is that of a column whose field has its name. -/
theorem exists_of_get?_setColumns {field : String} {found : Value} (absent : record.get? field = none)
    (held : (setColumns record columns value).get? field = some found) :
    ∃ column ∈ columns, column.field = field ∧ value column = found := by
  -- The value comes from the last column with the name, for there was none before.
  rw [get?_setColumns, absent] at held
  split at held
  · rename_i column last
    have same : column.field = field := by simpa using List.find?_some last
    exact ⟨column, List.mem_reverse.mp (List.mem_of_find?_eq_some last), same, Option.some.inj held⟩
  · cases held

/-- Columns set in an empty record give it the names of their fields and no others. -/
theorem mem_names_setColumns {field : String} :
    field ∈ (setColumns Dictionary.empty columns value).names ↔ field ∈ columns.map (·.field) := by
  rw [Dictionary.mem_names, get?_setColumns, List.mem_map]
  cases found : columns.reverse.find? fun column => column.field == field with
  | some column =>
    have same : column.field = field := by simpa using List.find?_some found
    have member := List.mem_reverse.mp (List.mem_of_find?_eq_some found)
    exact iff_of_true rfl ⟨column, member, same⟩
  | none =>
    -- No column has the field, and the empty record has nothing.
    refine iff_of_false nofun ?_
    rintro ⟨column, member, same⟩
    have passed := List.find?_eq_none.mp found column (List.mem_reverse.mpr member)
    simp [same] at passed

end SetColumns

end Record

end RecordTables
