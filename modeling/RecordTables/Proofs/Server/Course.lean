import RecordTables.Proofs.Server.Steps

/-!
Courses of statements, each at its place in a script. A script cuts a course behind the first statement
that it has a mishap for, and what it has for the statements behind that one does not matter.
-/

namespace RecordTables

namespace Place

/-- The operation that is named when the statement at a place exceeds the time limit. -/
def operation : Place → String
  | .begin => "begin reconciliation"
  | .lock => "advisory lock"
  | .tableCheck => "table check"
  | .create => "create table"
  | .columnCheck _ => "column check"
  | .add _ => "add column"
  | .commit => "commit reconciliation"

/-- The failure that an error of the store becomes at a place. -/
def failure (table : Table) : Place → StoreFault → Failure
  | .begin => .migration table.name
  | .lock => .migration table.name
  | .tableCheck => .tableCheck table.name
  | .create => .tableCreation table.name
  | .columnCheck column => .columnCheck table.name column
  | .add column => .columnAddition table.name column
  | .commit => .migration table.name

/-- The failure that a mishap becomes at a place, under a time limit. -/
def fault (table : Table) (place : Place) : Mishap → Failure
  | .error text => place.failure table (.database text)
  | .hang => .timeout place.operation table.name

/-- An error of the store is kept in the failure that it becomes. -/
theorem source?_failure (table : Table) (place : Place) (source : StoreFault) :
    (place.failure table source).source? = some source := by
  cases place <;> rfl

end Place

/-- The mishap that a script has for a place. -/
def Script.mishap? (script : Script) (place : Place) : Option Mishap :=
  (script.find? fun entry => entry.1 == place).map fun entry => entry.2

/-- A statement at its place in a script, with what it leaves in the log. -/
structure PlacedEntry where
  place : Place
  logged : LogEntry

/-- Statements one after the other. -/
abbrev Course := List PlacedEntry

namespace Course

variable {script other : Script}

/-- What the statements of a course leave in the log. -/
def log (course : Course) : List LogEntry := course.map PlacedEntry.logged

/-- A course under a script: it ends with the first statement that has a mishap. -/
def cut (script : Script) : Course → Course
  | [] => []
  | next :: rest =>
    if (script.mishap? next.place).isSome then [next] else next :: cut script rest

/-- The first place of a course for which a script has a mishap, and the mishap. -/
def firstMishap? (script : Script) (course : Course) : Option (Place × Mishap) :=
  course.findSome? fun next => (script.mishap? next.place).map fun mishap => (next.place, mishap)

/-- A statement without a mishap leaves the cut to those behind it. -/
theorem cut_cons_spared {next : PlacedEntry} (spared : script.mishap? next.place = none)
    (rest : Course) : cut script (next :: rest) = next :: cut script rest := by
  rw [cut, spared]
  rfl

/-- Nothing comes behind a statement with a mishap. -/
theorem cut_cons_mishap {next : PlacedEntry} {mishap : Mishap}
    (found : script.mishap? next.place = some mishap) (rest : Course) :
    cut script (next :: rest) = [next] := by
  rw [cut, found]
  rfl

/-- The first mishap is not that of a statement without one. -/
theorem firstMishap?_cons_spared {next : PlacedEntry} (spared : script.mishap? next.place = none)
    (rest : Course) : firstMishap? script (next :: rest) = firstMishap? script rest := by
  unfold firstMishap?
  rw [List.findSome?_cons, spared]
  rfl

/-- The first mishap is that of the first statement, if this one has a mishap. -/
theorem firstMishap?_cons_mishap {next : PlacedEntry} {mishap : Mishap}
    (found : script.mishap? next.place = some mishap) (rest : Course) :
    firstMishap? script (next :: rest) = some (next.place, mishap) := by
  unfold firstMishap?
  rw [List.findSome?_cons, found]
  rfl

/-- What is left of a course is its beginning. -/
theorem cut_prefix (script : Script) (course : Course) : cut script course <+: course := by
  -- The course is kept statement by statement, up to a mishap.
  induction course with
  | nil => exact List.prefix_refl []
  | cons next rest ih =>
    cases found : script.mishap? next.place with
    | none =>
      rw [cut_cons_spared found]
      exact (List.prefix_cons_inj next).mpr ih
    | some mishap =>
      rw [cut_cons_mishap found]
      exact ⟨rest, rfl⟩

/-- A script without a mishap for any statement of a course leaves all of it. -/
theorem cut_of_firstMishap?_none {course : Course} (clear : firstMishap? script course = none) :
    cut script course = course := by
  -- No statement of the course is the last one that is kept.
  induction course with
  | nil => rfl
  | cons next rest ih =>
    cases found : script.mishap? next.place with
    | none =>
      rw [firstMishap?_cons_spared found] at clear
      rw [cut_cons_spared found, ih clear]
    | some mishap =>
      rw [firstMishap?_cons_mishap found] at clear
      cases clear

/-- A mishap that comes first is that of the last statement which is left, and none before it has one. -/
theorem cut_of_firstMishap?_some {course : Course} {place : Place} {mishap : Mishap}
    (first : firstMishap? script course = some (place, mishap)) :
    ∃ before logged, cut script course = before ++ [⟨place, logged⟩] ∧
      ∀ earlier ∈ before, script.mishap? earlier.place = none := by
  -- The statement with the mishap is the first of the course, or it is among those behind.
  induction course with
  | nil => cases first
  | cons next rest ih =>
    cases found : script.mishap? next.place with
    | none =>
      rw [firstMishap?_cons_spared found] at first
      obtain ⟨before, logged, left, spared⟩ := ih first
      refine ⟨next :: before, logged, ?_, List.forall_mem_cons.mpr ⟨found, spared⟩⟩
      rw [cut_cons_spared found, left]
      rfl
    | some own =>
      rw [firstMishap?_cons_mishap found] at first
      cases first
      exact ⟨[], next.logged, cut_cons_mishap found rest,
        fun _ impossible => absurd impossible List.not_mem_nil⟩

/-- Behind statements without mishaps, one with a mishap is the last that is left. -/
theorem cut_split {before : Course} {next : PlacedEntry} {mishap : Mishap}
    (spared : ∀ earlier ∈ before, script.mishap? earlier.place = none)
    (found : script.mishap? next.place = some mishap) (behind : Course) :
    cut script (before ++ next :: behind) = before ++ [next] ∧
      firstMishap? script (before ++ next :: behind) = some (next.place, mishap) := by
  -- The induction is on the statements without mishaps, all of which are kept.
  induction before with
  | nil => exact ⟨cut_cons_mishap found behind, firstMishap?_cons_mishap found behind⟩
  | cons first rest ih =>
    obtain ⟨head, tail⟩ := List.forall_mem_cons.mp spared
    obtain ⟨left, mishaps⟩ := ih tail
    rw [List.cons_append, cut_cons_spared head, left, firstMishap?_cons_spared head, mishaps]
    exact ⟨rfl, rfl⟩

/-- Scripts that agree on what is left of a course leave the same of it, and find the same mishap first. -/
theorem cut_congr {course : Course}
    (agree : ∀ next ∈ cut script course, other.mishap? next.place = script.mishap? next.place) :
    cut other course = cut script course ∧ firstMishap? other course = firstMishap? script course := by
  -- What is left always holds the statement that decides whether more of the course is left.
  induction course with
  | nil => exact ⟨rfl, rfl⟩
  | cons next rest ih =>
    cases found : script.mishap? next.place with
    | none =>
      rw [cut_cons_spared found] at agree ⊢
      obtain ⟨head, tail⟩ := List.forall_mem_cons.mp agree
      have spared := head.trans found
      obtain ⟨left, first⟩ := ih tail
      rw [cut_cons_spared spared, left, firstMishap?_cons_spared spared, first,
        firstMishap?_cons_spared found]
      exact ⟨rfl, rfl⟩
    | some mishap =>
      rw [cut_cons_mishap found] at agree ⊢
      have same := (agree next List.mem_cons_self).trans found
      rw [cut_cons_mishap same, firstMishap?_cons_mishap same, firstMishap?_cons_mishap found]
      exact ⟨rfl, rfl⟩

end Course

namespace Step

/-- A statement of a plan at its place. -/
def placedEntry (step : Step) : PlacedEntry := ⟨step.place, step.command.logEntry⟩

/-- The mishap with a statement is the one that the script has for its place. -/
theorem mishap?_place (script : Script) (step : Step) :
    Server.mishap? script step.command = script.mishap? step.place :=
  Server.mishap?_step script step

/-- The log of a plan is that of its course. -/
theorem log_map_placedEntry (steps : List Step) : Course.log (steps.map placedEntry) = log steps :=
  List.map_map

end Step

end RecordTables
