import RecordTables.BaseFields

/-! Entities: how they write a record and how they are read back from one. -/

namespace RecordTables

/-- An entity with or without the base fields, and with further fields that win over them. -/
structure Entity where
  base : Option BaseFields
  fields : List (String × Value)

/-- The record that an entity writes. -/
def Entity.record (entity : Entity) : Record :=
  let start := match entity.base with
    | none => Dictionary.empty
    | some base => base.write Dictionary.empty
  -- The base fields come first, so that a field with one of their names replaces theirs.
  entity.fields.foldl (fun record field => record.insert field.1 field.2) start

/-- A way to build something from a record, which says what it leaves unread. -/
abbrev RecordReader (α : Type) := Record → Except Failure α × Record

/-- One step of reading an entity. -/
inductive ReadStep where
  | base
  | field (name : String) (kind : FieldKind)
  deriving DecidableEq

/-- What one step of reading has found. -/
inductive Reading where
  | base (fields : BaseFields)
  | field (kind : FieldKind) (content : kind.Carrier)

/-- Carries out one step of reading. -/
def ReadStep.read : ReadStep → RecordReader Reading
  | .base, record =>
    let (result, rest) := BaseFields.take record
    (result.map .base, rest)
  | .field name kind, record =>
    let (result, rest) := record.take name kind
    (result.map (.field kind), rest)

/-- The steps of reading an entity in order. -/
abbrev ReadPlan := List ReadStep

/-- Carries out the steps of a plan, up to the first that fails. -/
def ReadPlan.read : ReadPlan → RecordReader (List Reading)
  | [], record => (.ok [], record)
  | step :: steps, record =>
    match step.read record with
    -- The steps behind a failure do not take anything.
    | (.error failure, rest) => (.error failure, rest)
    | (.ok reading, rest) =>
      let (result, last) := ReadPlan.read steps rest
      (result.map (reading :: ·), last)

/-- What a plan has read and how many fields of the record it left. -/
structure Readout where
  readings : List Reading
  unread : Nat

/-- Reads an entity and counts what is left of its record. -/
def ReadPlan.readout (plan : ReadPlan) : RecordReader Readout := fun record =>
  let (result, rest) := ReadPlan.read plan record
  (result.map fun readings => ⟨readings, rest.size⟩, rest)

end RecordTables
