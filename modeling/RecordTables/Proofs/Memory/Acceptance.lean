import RecordTables.Proofs.Entity
import RecordTables.Proofs.Memory.RequestFaults
import RecordTables.Proofs.Memory.Row

/-! Once a table in memory is made, no call on it fails for its description. -/

namespace RecordTables

/-- Whether a failure says what is wrong with the description of a table. -/
def Failure.concernsDescription : Failure → Bool
  | .missingTag _ => true
  | .duplicateColumn _ => true
  | .invalidIdentifier _ => true
  | .unsupportedType _ _ => true
  | _ => false

/-- A result that is no failure of the description. -/
def Accepted {α : Type} (outcome : Except Failure α) : Prop :=
  ∀ failure, outcome = .error failure → failure.concernsDescription = false

section Outcomes

variable {α β : Type}

/-- What has succeeded is no failure. -/
theorem accepted_ok (value : α) : Accepted (.ok value) := fun _ impossible => nomatch impossible

/-- A failure that does not concern the description. -/
theorem accepted_error {failure : Failure} (other : failure.concernsDescription = false) :
    Accepted (.error failure : Except Failure α) := by
  rintro _ ⟨⟩
  exact other

/-- What is made of a result fails only as the result does. -/
theorem Accepted.map {outcome : Except Failure α} (accepted : Accepted outcome) (change : α → β) :
    Accepted (outcome.map change) := by
  cases outcome with
  | error failure => exact accepted_error (accepted failure rfl)
  | ok value => exact accepted_ok _

/-- What is done for all items fails only as it fails for one of them. -/
theorem accepted_mapM {action : α → Except Failure β} {items : List α}
    (each : ∀ item ∈ items, Accepted (action item)) : Accepted (items.mapM action) := by
  intro failure failed
  -- The failure is that of the first item that has one.
  have first := failure?_mapM action items
  rw [failed] at first
  obtain ⟨item, member, found⟩ := List.exists_of_findSome?_eq_some first.symm
  exact each item member failure (failure?_eq_some.mp found)

/-- Values that are taken out of a record are at most missing. -/
theorem accepted_takeValues (fields : List String) (record : Record) :
    Accepted (Record.takeValues fields record) := by
  -- The only failure is that of a missing value.
  intro failure failed
  obtain ⟨field, _, rfl⟩ := Record.takeValues_eq_error.mp failed
  rfl

/-- Naming the table in a failure does not change what the failure concerns. -/
theorem accepted_withTable {outcome : Except Failure α} (accepted : Accepted outcome) (name : String) :
    Accepted (outcome.mapError (Failure.withTable name)) := by
  cases outcome with
  | ok value => exact accepted_ok value
  | error failure =>
    -- At most the table of a row that cannot be read is filled in.
    have kept : (failure.withTable name).concernsDescription = failure.concernsDescription := by
      cases failure with
      | rowScan table column reason =>
        by_cases unnamed : table = "" <;>
          simp [Failure.withTable, Failure.concernsDescription, unnamed]
      | _ => rfl
    exact accepted_error (kept.trans (accepted failure rfl))

/-- Taking a field out of a record fails for the record and not for the description. -/
theorem accepted_take (record : Record) (field : String) (kind : FieldKind) :
    Accepted (record.take field kind).1 := by
  -- The field may be absent, or its value may be of another kind.
  unfold Record.take
  split
  · exact accepted_error rfl
  · rename_i value _
    cases kind.decode value with
    | error fault => exact accepted_error rfl
    | ok content => exact accepted_ok content

/-- A reader that fails only by taking fields never fails for the description. -/
theorem RecordReader.FailsByTaking.accepted {reader : RecordReader α} (taking : reader.FailsByTaking)
    (record : Record) : Accepted (reader record).1 := by
  -- Whatever fails is the taking of a field, and that never speaks of the description.
  intro failure failed
  obtain ⟨source, field, kind, taken⟩ := taking record failure failed
  exact accepted_take source field kind failure taken

end Outcomes

namespace MemoryTable

/-- Inserting into a table in memory never fails for the description. -/
theorem insert_accepted (table : MemoryTable) (record : Record) : Accepted (table.insert record) := by
  -- A value may be missing or null, and that is all.
  have made : Accepted (Row.ofRecord table.columns record) := by
    rw [Row.ofRecord_eq]
    exact (accepted_takeValues _ record).map _
  unfold MemoryTable.insert
  cases filled : Row.ofRecord table.columns record with
  | error failure => exact accepted_error (made failure filled)
  | ok row =>
    dsimp only
    cases table.nullColumn? row with
    | some column => exact accepted_error rfl
    | none =>
      dsimp only
      cases table.conflict? row with
      | some column => exact accepted_ok _
      | none => exact accepted_ok _

/-- A request is never refused for the description. -/
theorem checkRequest_accepted (table : MemoryTable) (request : Request) :
    Accepted (table.checkRequest request) := by
  intro failure refused
  -- A column may be unknown, and an order against null makes no sense; there are no other faults.
  have first := table.failure?_checkRequest request
  rw [refused] at first
  obtain ⟨fault, _, said⟩ := Option.map_eq_some_iff.mp first.symm
  rw [← said]
  cases fault <;> rfl

/-- Querying a table in memory never fails for the description. -/
theorem query_accepted {α : Type} {reader : RecordReader α} (taking : reader.FailsByTaking)
    (table : MemoryTable) (request : Request) : Accepted (table.query reader request) := by
  -- A query can fail for its request, in the selection, and for a row that is not read.
  have selecting : Accepted (table.select request) := (checkRequest_accepted table request).map _
  unfold MemoryTable.query
  cases selected : table.select request with
  | error failure => exact accepted_error (selecting failure selected)
  | ok rows =>
    refine accepted_mapM ?_
    intro row _
    exact accepted_withTable (taking.accepted _) table.name

end MemoryTable

end RecordTables
