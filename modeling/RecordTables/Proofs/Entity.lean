import RecordTables.Entity
import RecordTables.Proofs.Column.Faults
import RecordTables.Proofs.Record

/-!
Readers that do nothing with a record but take fields out of it. Such a reader fails only where a field
is taken, and what it finds there was under the same name in the record from the beginning.
-/

namespace RecordTables

/--
A reader that only takes fields out of a record, of the names and kinds asked for. It may go on in any way
once it has tried to take one, and it fails only with failures that it has met.
-/
inductive RecordReader.Takes {α : Type} (asked : List (String × FieldKind)) :
    List Failure → RecordReader α → Prop where
  | done {met : List Failure} (result : Record → α) :
    Takes asked met fun record => (.ok (result record), record)
  | fail {met : List Failure} {failure : Failure} (known : failure ∈ met) :
    Takes asked met fun record => (.error failure, record)
  | take {met : List Failure} {field : String} {kind : FieldKind}
    {next : Except Failure kind.Carrier → RecordReader α} (listed : (field, kind) ∈ asked)
    (onContent : ∀ content, Takes asked met (next (.ok content)))
    (onFailure : ∀ failure, Takes asked (failure :: met) (next (.error failure))) :
    Takes asked met fun record => next (record.take field kind).1 (record.take field kind).2

section Takes

variable {α : Type} {asked : List (String × FieldKind)} {met : List Failure}

/-- A reader that only takes fields fails with a failure that it has met, or one of taking such a field. -/
theorem RecordReader.Takes.failed {reader : RecordReader α} (takes : reader.Takes asked met)
    {part record : Record} (within : part.PartOf record) {failure : Failure}
    (failed : (reader part).1 = .error failure) :
    failure ∈ met ∨ ∃ (source : Record) (field : String) (kind : FieldKind),
      (field, kind) ∈ asked ∧ source.PartOf record ∧ (source.take field kind).1 = .error failure := by
  -- The induction is on the reader; each field that it takes leaves less of the record to the rest.
  induction takes generalizing part with
  | done result => cases failed
  | fail known =>
    cases failed
    exact .inl known
  | @take met field kind next listed _ _ onContent onFailure =>
    have left := within.take field kind
    cases taken : (part.take field kind).1 with
    | ok content =>
      dsimp only at failed
      rw [taken] at failed
      exact onContent content left failed
    | error first =>
      dsimp only at failed
      rw [taken] at failed
      -- Behind a field that could not be taken only the failures met so far can be
      -- raised, this one among them.
      rcases onFailure first left failed with known | later
      · rcases List.mem_cons.mp known with rfl | known
        · exact .inr ⟨part, field, kind, listed, within, taken⟩
        · exact .inl known
      · exact .inr later

end Takes

namespace RecordReader

variable {α β γ : Type}

/-- Reads on with what was read, or passes on the failure to read it. -/
def resume (next : α → RecordReader β) : Except Failure α → RecordReader β
  | .error failure => fun record => (.error failure, record)
  | .ok value => next value

/-- One reader after another, of what the first one has left. -/
def followedBy (reader : RecordReader α) (next : α → RecordReader β) : RecordReader β := fun record =>
  resume next (reader record).1 (reader record).2

/-- Reads nothing and gives a value that is known. -/
def give (value : α) : RecordReader α := fun record => (.ok value, record)

/-- Takes one field. -/
def taking (field : String) (kind : FieldKind) : RecordReader kind.Carrier := fun record =>
  record.take field kind

/-- Of three readers the last two can be taken together as well as the first two. -/
theorem followedBy_assoc (reader : RecordReader α) (second : α → RecordReader β)
    (third : β → RecordReader γ) :
    (reader.followedBy second).followedBy third =
      reader.followedBy fun value => (second value).followedBy third := by
  -- A failure of the first reader ends both ways, and a value goes on to the same two.
  funext record
  unfold followedBy
  rcases reader record with ⟨_ | value, rest⟩ <;> rfl

/-- Behind a reader may follow any that only takes the fields asked for, and both together do only that. -/
def Continues (asked : List (String × FieldKind)) (reader : RecordReader α) : Prop :=
  ∀ (β : Type) (met : List Failure) (next : α → RecordReader β),
    (∀ value, (next value).Takes asked met) → (reader.followedBy next).Takes asked met

variable {asked : List (String × FieldKind)}

/-- Behind what reads nothing there is only the rest. -/
theorem continues_give (value : α) : (give value).Continues asked := fun _ _ _ each => each value

/-- Behind a field comes the rest, or the failure to take it. -/
theorem continues_taking {field : String} {kind : FieldKind} (listed : (field, kind) ∈ asked) :
    (taking field kind).Continues asked := by
  intro β met next each
  exact .take listed each fun failure => .fail List.mem_cons_self

/-- Behind two readers that can be continued the rest comes behind the second one. -/
theorem Continues.followedBy {reader : RecordReader α} {next : α → RecordReader β}
    (continues : reader.Continues asked) (each : ∀ value, (next value).Continues asked) :
    (reader.followedBy next).Continues asked := by
  -- What stands behind both stands behind the second one first.
  intro γ met third rest
  rw [followedBy_assoc]
  exact continues γ met _ fun value => each value γ met third rest

end RecordReader

/-- The base fields and their kinds. -/
def BaseFields.asked : List (String × FieldKind) :=
  [("id", .text), ("created_at", .timestamp), ("metadata", .metadata), ("tags", .textList)]

/-- The fields that a step of reading takes. -/
def ReadStep.asked : ReadStep → List (String × FieldKind)
  | .base => BaseFields.asked
  | .field name kind => [(name, kind)]

/-- The fields that a plan of reading takes. -/
def ReadPlan.asked (plan : ReadPlan) : List (String × FieldKind) := plan.flatMap ReadStep.asked

section Plans

variable {asked : List (String × FieldKind)}

open RecordReader

/-- The base fields are taken one after the other. -/
theorem BaseFields.continues_take (listed : BaseFields.asked ⊆ asked) :
    RecordReader.Continues asked BaseFields.take := by
  have same : BaseFields.take =
      (taking "id" .text).followedBy fun id =>
        (taking "created_at" .timestamp).followedBy fun createdAt =>
          (taking "metadata" .metadata).followedBy fun metadata =>
            (taking "tags" .textList).followedBy fun tags => give ⟨id, createdAt, metadata, tags⟩ := by
    -- At each of the four fields both stop, or both go on with what is left.
    funext record
    unfold BaseFields.take followedBy taking
    rcases record.take "id" .text with ⟨_ | id, record⟩
    · rfl
    · dsimp only [resume]
      rcases record.take "created_at" .timestamp with ⟨_ | createdAt, record⟩
      · rfl
      · dsimp only [resume]
        rcases record.take "metadata" .metadata with ⟨_ | metadata, record⟩
        · rfl
        · dsimp only [resume]
          rcases record.take "tags" .textList with ⟨_ | tags, record⟩ <;> rfl
  -- In this form each of the four is a taking that was asked for.
  rw [same]
  exact (continues_taking (listed (by decide))).followedBy fun id =>
    (continues_taking (listed (by decide))).followedBy fun createdAt =>
      (continues_taking (listed (by decide))).followedBy fun metadata =>
        (continues_taking (listed (by decide))).followedBy fun tags => continues_give _

/-- A step of reading takes its fields. -/
theorem ReadStep.continues_read (step : ReadStep) (listed : step.asked ⊆ asked) :
    step.read.Continues asked := by
  -- Each step is the taking of its fields with something made of them, which takes nothing more.
  cases step with
  | base =>
    have same : ReadStep.base.read = followedBy BaseFields.take fun base => give (.base base) := by
      funext record
      dsimp only [ReadStep.read, followedBy]
      rcases BaseFields.take record with ⟨_ | base, rest⟩ <;> rfl
    rw [same]
    exact (BaseFields.continues_take listed).followedBy fun base => continues_give _
  | field name kind =>
    have same : (ReadStep.field name kind).read =
        (taking name kind).followedBy fun content => give (.field kind content) := by
      funext record
      dsimp only [ReadStep.read, followedBy, taking]
      rcases record.take name kind with ⟨_ | content, rest⟩ <;> rfl
    rw [same]
    exact (continues_taking (listed List.mem_cons_self)).followedBy fun content => continues_give _

/-- A plan of reading takes the fields of its steps. -/
theorem ReadPlan.continues_read (plan : ReadPlan) (listed : plan.asked ⊆ asked) :
    (ReadPlan.read plan).Continues asked := by
  -- The induction is on the steps; behind each comes the rest of the plan.
  induction plan with
  | nil => exact continues_give []
  | cons step rest ih =>
    obtain ⟨head, tail⟩ := List.append_subset.mp listed
    have same : ReadPlan.read (step :: rest) =
        step.read.followedBy fun reading => (ReadPlan.read rest).followedBy fun readings =>
          give (reading :: readings) := by
      funext record
      unfold ReadPlan.read followedBy
      rcases step.read record with ⟨_ | reading, left⟩
      · rfl
      · dsimp only [resume]
        rcases ReadPlan.read rest left with ⟨_ | readings, last⟩ <;> rfl
    rw [same]
    exact (step.continues_read head).followedBy fun reading =>
      (ih tail).followedBy fun readings => continues_give _

/-- An entity is read by taking the fields of the plan. -/
theorem ReadPlan.readout_takes (plan : ReadPlan) : plan.readout.Takes plan.asked [] := by
  -- What is counted is left of the record when the last step is done.
  have same : plan.readout =
      (ReadPlan.read plan).followedBy fun readings record => (.ok ⟨readings, record.size⟩, record) := by
    funext record
    unfold readout followedBy
    rcases ReadPlan.read plan record with ⟨_ | readings, rest⟩ <;> rfl
  rw [same]
  exact plan.continues_read (List.Subset.refl _) _ _ _ fun readings =>
    .done fun record => Readout.mk readings record.size

end Plans

/-- A reader that fails only where it takes a field out of a record. -/
def RecordReader.FailsByTaking {α : Type} (reader : RecordReader α) : Prop :=
  ∀ record failure, (reader record).1 = .error failure →
    ∃ (source : Record) (field : String) (kind : FieldKind), (source.take field kind).1 = .error failure

/-- Counting what a plan leaves unread does not make it fail otherwise. -/
theorem ReadPlan.readout_failsByTaking (plan : ReadPlan) :
    RecordReader.FailsByTaking plan.readout := by
  -- A plan raises no failures of its own, so each is one of a field that was taken.
  intro record failure failed
  rcases plan.readout_takes.failed (fun _ _ => id) failed with impossible | ⟨source, field, kind, _, _, taken⟩
  · exact absurd impossible List.not_mem_nil
  · exact ⟨source, field, kind, taken⟩

end RecordTables
