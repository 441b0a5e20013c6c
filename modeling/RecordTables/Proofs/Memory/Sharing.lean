import RecordTables.Proofs.Memory.History

/-!
Tables in memory do not touch each other: the handles that share one table, by way of any number of other
handles, are answered as if that table were the only one, and nothing else ever changes its rows.
-/

namespace RecordTables

namespace MemoryCall

/-- The same call through another handle; a new table is made through none. -/
def through (other : Nat) : MemoryCall → MemoryCall
  | .insert _ record => .insert other record
  | .delete _ key => .delete other key
  | .query _ request => .query other request
  | .share _ => .share other
  | .fresh table => .fresh table

/-- The handle that a call is about: the one it goes through, or the one made for a new table. -/
def handle? {α : Type} : MemoryCall → MemoryAnswer α → Option Nat
  | .insert handle _, _ => some handle
  | .delete handle _, _ => some handle
  | .query handle _, _ => some handle
  | .share handle, _ => some handle
  | .fresh _, .handle number => some number
  | .fresh _, _ => none

/-- What joins a list with a shared handle, and with no other call. -/
def joins (entry : Nat) : MemoryCall → List Nat
  | .share _ => [entry]
  | _ => []

end MemoryCall

/-- What a call shows: its answer, and then the number of rows behind its handle. -/
structure Shown (α : Type) where
  answer : MemoryAnswer α
  size? : Option Nat

/-- What a call shows but for the number of a new handle, which counts the handles of all tables. -/
def Shown.unnumbered {α : Type} (shown : Shown α) : Shown α :=
  match shown.answer with
  | .handle _ => { shown with answer := .handle 0 }
  | _ => shown

namespace MemoryHandles

/-- No table and no handle. -/
def empty : MemoryHandles := ⟨[], []⟩

variable {α : Type} (layout : Layout) (reader : RecordReader α)

/-- Carries out a call and looks at the table behind its handle. -/
def perform (handles : MemoryHandles) (call : MemoryCall) : Shown α × MemoryHandles :=
  let (answer, after) := handles.call layout reader call
  (⟨answer, ((call.handle? answer).bind after.table?).map MemoryTable.size⟩, after)

/-- Carries out calls one after the other, and tells what each of them shows. -/
def performAll (handles : MemoryHandles) : List MemoryCall → List (Shown α) × MemoryHandles
  | [] => ([], handles)
  | call :: rest =>
    let (shown, after) := handles.perform layout reader call
    let (others, last) := performAll after rest
    (shown :: others, last)

end MemoryHandles

/--
Handles and the family that each belongs to. A family is a new table's first handle, whose number names
it, with all handles that share with one of the family.
-/
structure Kindred where
  handles : MemoryHandles
  families : List Nat

/-- One call of a run: the family of its handle, if there is such a handle, and what it shows. -/
structure Kindred.Step (α : Type) where
  call : MemoryCall
  family? : Option Nat
  shown : Shown α

namespace Kindred

/-- No handles and no families. -/
def empty : Kindred := ⟨.empty, []⟩

/-- The families after a call: a shared handle joins one, and the handle of a new table founds one. -/
def grown {α : Type} (families : List Nat) : MemoryCall → MemoryAnswer α → List Nat
  | .share handle, .handle _ => families ++ families[handle]?.toList
  | .fresh _, .handle number => families ++ [number]
  | _, _ => families

section Runs

variable {α : Type} (layout : Layout) (reader : RecordReader α)

/-- Carries out a call and finds the family of its handle. -/
def call (kindred : Kindred) (call : MemoryCall) : Step α × Kindred :=
  let (shown, after) := kindred.handles.perform layout reader call
  let families := grown kindred.families call shown.answer
  (⟨call, (call.handle? shown.answer).bind (families[·]?), shown⟩, ⟨after, families⟩)

/-- Carries out calls one after the other. -/
def run (kindred : Kindred) : List MemoryCall → List (Step α) × Kindred
  | [] => ([], kindred)
  | call :: rest =>
    let (step, after) := kindred.call layout reader call
    let (others, last) := run after rest
    (step :: others, last)

end Runs

/-- Families account for all handles: each handle has one, and is on a table that exists. -/
structure Sound (kindred : Kindred) : Prop where
  lengths : kindred.families.length = kindred.handles.handles.length
  placed : ∀ number ∈ kindred.handles.handles, number < kindred.handles.tables.length
  named : ∀ family ∈ kindred.families, family < kindred.families.length

/-- A family has all handles on the table at one place, and no others. -/
structure Holds (kindred : Kindred) (family place : Nat) (table : MemoryTable) : Prop where
  stored : kindred.handles.tables[place]? = some table
  handles : ∀ handle : Nat,
    kindred.families[handle]? = some family ↔ kindred.handles.handles[handle]? = some place
  founded : family < kindred.families.length

/-- Handles on one table alone stand for a family, and no handles for a family that is not founded yet. -/
inductive StandsFor (kindred : Kindred) (family : Nat) : MemoryHandles → Prop where
  | unfounded (absent : family ∉ kindred.families) : StandsFor kindred family .empty
  | founded {place : Nat} {table : MemoryTable} {alone : MemoryHandles}
    (holds : kindred.Holds family place table) (only : alone.Alone table)
    (first : alone.handles[0]? = some 0) : StandsFor kindred family alone

end Kindred

/-- What a table shows for a call on it, whatever handle it is made through, and the table after it. -/
def MemoryTable.respond {α : Type} (reader : RecordReader α) (table : MemoryTable) :
    MemoryCall → Shown α × MemoryTable
  | .insert _ record =>
    match table.insert record with
    | .error failure => (⟨.failed failure, some table.size⟩, table)
    | .ok (count, changed) => (⟨.count count, some changed.size⟩, changed)
  | .delete _ key =>
    let (count, changed) := table.delete key
    (⟨.count count, some changed.size⟩, changed)
  | .query _ request =>
    match table.query reader request with
    | .error failure => (⟨.failed failure, some table.size⟩, table)
    | .ok items => (⟨.found items, some table.size⟩, table)
  -- Handles are numbered by all families together, so that none is shown here.
  | .share _ => (⟨.handle 0, some table.size⟩, table)
  | .fresh _ => (⟨.handle 0, some table.size⟩, table)

namespace MemoryHandles

variable {α : Type} (layout : Layout) (reader : RecordReader α)

/-- A call through a handle shows what the table behind it does, and changes no other table. -/
theorem perform_through {handles : MemoryHandles} {handle place : Nat} {table : MemoryTable}
    {call : MemoryCall} (old : call.makesTable = false)
    (leads : handles.handles[handle]? = some place) (stored : handles.tables[place]? = some table) :
    let result := handles.perform layout reader (call.through handle)
    result.1.unnumbered = (table.respond reader call).1 ∧
      result.2.tables = handles.tables.set place (table.respond reader call).2 ∧
      result.2.handles = handles.handles ++ call.joins place := by
  have found : handles.table? handle = some table := by simp [table?, leads, stored]
  -- A table that is put where it stands already changes nothing.
  have same : handles.tables.set place table = handles.tables := by
    obtain ⟨bound, rfl⟩ := List.getElem?_eq_some_iff.mp stored
    exact List.set_getElem_self bound
  have bound : place < handles.tables.length := (List.getElem?_eq_some_iff.mp stored).1
  have put : ∀ changed : MemoryTable, (handles.update handle changed).tables =
      handles.tables.set place changed ∧ (handles.update handle changed).handles = handles.handles ∧
      (handles.update handle changed).table? handle = some changed := by
    intro changed
    simp [update, leads, table?, bound]
  -- Each call answers as the table does and puts back what the table has become.
  cases call with
  | insert _ record =>
    cases insertion : table.insert record with
    | error failure =>
      simp [perform, MemoryCall.through, call, found, insertion, MemoryTable.respond,
        MemoryCall.handle?, Shown.unnumbered, MemoryCall.joins, same]
    | ok result =>
      obtain ⟨count, changed⟩ := result
      simp [perform, MemoryCall.through, call, found, insertion, MemoryTable.respond,
        MemoryCall.handle?, Shown.unnumbered, MemoryCall.joins, put]
  | delete _ key =>
    simp [perform, MemoryCall.through, call, found, MemoryTable.respond, MemoryCall.handle?,
      Shown.unnumbered, MemoryCall.joins, put]
  | query _ request =>
    cases answer : table.query reader request with
    | error failure =>
      simp [perform, MemoryCall.through, call, found, answer, MemoryTable.respond,
        MemoryCall.handle?, Shown.unnumbered, MemoryCall.joins, same]
    | ok items =>
      simp [perform, MemoryCall.through, call, found, answer, MemoryTable.respond,
        MemoryCall.handle?, Shown.unnumbered, MemoryCall.joins, same]
  | share _ =>
    -- The handle that is shared leads where it led before.
    have still : MemoryHandles.table? ⟨handles.tables, handles.handles ++ [place]⟩ handle =
        some table := by
      have early : handle < handles.handles.length := (List.getElem?_eq_some_iff.mp leads).1
      simp [table?, List.getElem?_append_left early, leads, stored]
    simp [perform, MemoryCall.through, call, leads, MemoryTable.respond, MemoryCall.handle?,
      Shown.unnumbered, MemoryCall.joins, same, still]
  | fresh _ => cases old

end MemoryHandles

namespace Kindred

variable {α : Type} (layout : Layout) (reader : RecordReader α)

/-- The family of a call is that of the handle that it is about, once the families have grown. -/
theorem family?_call (kindred : Kindred) (call : MemoryCall) :
    (kindred.call layout reader call).1.family? =
      (call.handle? (kindred.handles.perform layout reader call).1.answer).bind
        ((grown kindred.families call (kindred.handles.perform layout reader call).1.answer)[·]?) := rfl

/--
What a call can do: nothing, where it has no family; act on the table of its family, where a handle that
it makes leads to the same table; or put a new table behind a handle that founds a family.
-/
inductive Turn (kindred : Kindred) (call : MemoryCall) (step : Step α) (after : Kindred) : Prop where
  | idle (strange : step.family? = none) (same : after = kindred)
  | within {handle place family : Nat} {table : MemoryTable} (old : call.makesTable = false)
    (leads : kindred.handles.handles[handle]? = some place)
    (stored : kindred.handles.tables[place]? = some table)
    (belongs : kindred.families[handle]? = some family)
    (named : step.family? = some family)
    (shown : step.shown.unnumbered = (table.respond reader call).1)
    (tables : after.handles.tables = kindred.handles.tables.set place (table.respond reader call).2)
    (handles : after.handles.handles = kindred.handles.handles ++ call.joins place)
    (families : after.families = kindred.families ++ call.joins family)
  | founding {table : Table} {created : MemoryTable} (made : call = .fresh table)
    (creation : MemoryTable.create table layout = .ok created)
    (named : step.family? = some kindred.families.length)
    (shown : step.shown.unnumbered = ⟨.handle 0, some created.size⟩)
    (tables : after.handles.tables = kindred.handles.tables ++ [created])
    (handles : after.handles.handles = kindred.handles.handles ++ [kindred.handles.tables.length])
    (families : after.families = kindred.families ++ [kindred.families.length])

variable {layout reader} {kindred : Kindred}

/-- A call through a handle acts on the table of the family, if there is such a handle. -/
theorem turn_through (sound : kindred.Sound) (handle : Nat) {call : MemoryCall}
    (old : call.makesTable = false) (own : call.through handle = call) :
    Turn layout reader kindred call (kindred.call layout reader call).1
      (kindred.call layout reader call).2 := by
  have lengths := sound.lengths
  cases leads : kindred.handles.handles[handle]? with
  | none =>
    -- A handle is missing exactly when it has no family.
    have unnamed : kindred.families[handle]? = none := by
      rw [List.getElem?_eq_none_iff] at leads ⊢
      omega
    have nothing : kindred.handles.table? handle = none := by simp [MemoryHandles.table?, leads]
    rw [← own]
    refine .idle ?_ ?_ <;> cases call <;>
      simp_all [Kindred.call, MemoryHandles.perform, MemoryCall.through, MemoryHandles.call,
        MemoryCall.handle?, MemoryCall.makesTable, grown]
  | some place =>
    obtain ⟨bound, _⟩ := List.getElem?_eq_some_iff.mp leads
    have belongs := List.getElem?_eq_getElem (lengths ▸ bound)
    have stored := List.getElem?_eq_getElem (sound.placed place (List.mem_of_getElem? leads))
    obtain ⟨shown, tables, handles⟩ := MemoryHandles.perform_through layout reader old
      leads stored
    rw [own] at shown tables handles
    -- Only a handle that is shared makes a family grow.
    have families : grown kindred.families call
        (kindred.handles.perform layout reader call).1.answer =
          kindred.families ++ call.joins kindred.families[handle] := by
      rw [← own]
      cases call with
      | share _ =>
        simp [MemoryHandles.perform, MemoryHandles.call, MemoryCall.through, leads, grown, belongs,
          MemoryCall.joins]
      | fresh _ => cases old
      | _ => simp [MemoryCall.through, grown, MemoryCall.joins]
    -- What the call is about was settled before it answered.
    have about : call.handle? (kindred.handles.perform layout reader call).1.answer = some handle := by
      rw [← own]
      cases call with
      | fresh _ => cases old
      | _ => rfl
    refine .within old leads stored belongs ?_ shown tables handles families
    rw [family?_call, about, families, Option.bind_some, List.getElem?_append_left (lengths ▸ bound),
      belongs]

/-- A new table founds a family of its own, unless it cannot be made. -/
theorem turn_fresh (sound : kindred.Sound) (table : Table) :
    Turn layout reader kindred (.fresh table) (kindred.call layout reader (.fresh table)).1
      (kindred.call layout reader (.fresh table)).2 := by
  have lengths := sound.lengths
  cases creation : MemoryTable.create table layout with
  | error failure =>
    refine .idle ?_ ?_ <;>
      simp [Kindred.call, MemoryHandles.perform, MemoryHandles.call, creation, MemoryCall.handle?, grown]
  | ok created =>
    -- The new handle is the last one, and leads to the last table.
    refine .founding rfl creation ?_ ?_ ?_ ?_ ?_ <;>
      simp [Kindred.call, MemoryHandles.perform, MemoryHandles.call, creation, MemoryCall.handle?,
        grown, lengths, Shown.unnumbered, MemoryHandles.table?]

variable (layout reader) in
/-- Every call does one of the three things. -/
theorem turn (sound : kindred.Sound) (call : MemoryCall) :
    Turn layout reader kindred call (kindred.call layout reader call).1
      (kindred.call layout reader call).2 := by
  -- Only a fresh table founds a family; every other call goes through a handle that was given before.
  cases call with
  | insert handle record => exact turn_through sound handle rfl rfl
  | delete handle key => exact turn_through sound handle rfl rfl
  | query handle request => exact turn_through sound handle rfl rfl
  | share handle => exact turn_through sound handle rfl rfl
  | fresh table => exact turn_fresh sound table

/-- Families account for handles that are appended too, if the tables and the families of these are there. -/
theorem Sound.grown {after : Kindred} (sound : kindred.Sound) {lefts rights : List Nat}
    (families : after.families = kindred.families ++ lefts)
    (handles : after.handles.handles = kindred.handles.handles ++ rights)
    (alike : lefts.length = rights.length)
    (standing : kindred.handles.tables.length ≤ after.handles.tables.length)
    (placed : ∀ number ∈ rights, number < after.handles.tables.length)
    (named : ∀ family ∈ lefts, family < after.families.length) : after.Sound where
  lengths := by
    rw [families, handles, List.length_append, List.length_append, alike, sound.lengths]
  placed := by
    intro number member
    rw [handles] at member
    -- Tables are never removed, so that the old handles still lead to one.
    rcases List.mem_append.mp member with before | added
    · exact Nat.lt_of_lt_of_le (sound.placed number before) standing
    · exact placed number added
  named := by
    intro family member
    rw [families] at member
    rcases List.mem_append.mp member with before | added
    · rw [families, List.length_append]
      exact Nat.lt_add_right _ (sound.named family before)
    · exact named family added

/-- Whatever is called, families account for all handles. -/
theorem Turn.sound {call : MemoryCall} {step : Step α} {after : Kindred}
    (turn : Turn layout reader kindred call step after) (sound : kindred.Sound) : after.Sound := by
  cases turn with
  | idle _ same => exact same ▸ sound
  | @within handle place family table old leads stored belongs _ _ tables handles families =>
    -- At most one handle joins, and it joins the table and the family of the handle that was used.
    have alike : (call.joins family).length = (call.joins place).length := by cases call <;> rfl
    have joined : ∀ entry other, other ∈ call.joins entry → other = entry := by
      cases call <;> simp [MemoryCall.joins]
    have standing : after.handles.tables.length = kindred.handles.tables.length := by
      rw [tables, List.length_set]
    refine sound.grown families handles alike (Nat.le_of_eq standing.symm) ?_ ?_
    · intro number added
      rw [joined place number added, standing]
      exact sound.placed place (List.mem_of_getElem? leads)
    · intro other added
      rw [joined family other added, families, List.length_append]
      exact Nat.lt_add_right _ (sound.named family (List.mem_of_getElem? belongs))
  | founding _ _ _ _ tables handles families =>
    -- The new handle is the last one and leads to the last table, and its family has its number.
    have standing : after.handles.tables.length = kindred.handles.tables.length + 1 := by
      rw [tables, List.length_append, List.length_singleton]
    refine sound.grown families handles rfl (Nat.le.intro standing.symm) ?_ ?_
    · intro number added
      rw [List.mem_singleton.mp added, standing]
      exact Nat.lt_succ_self _
    · intro other added
      rw [List.mem_singleton.mp added, families, List.length_append]
      exact Nat.lt_succ_self _

/-- Lists with two entries in the same places have them in the same places when more are appended so. -/
theorem getElem?_append_iff {left right lefts rights : List Nat} {entry other : Nat}
    (lengths : left.length = right.length)
    (before : ∀ place : Nat, left[place]? = some entry ↔ right[place]? = some other)
    (behind : ∀ place : Nat, lefts[place]? = some entry ↔ rights[place]? = some other) (place : Nat) :
    (left ++ lefts)[place]? = some entry ↔ (right ++ rights)[place]? = some other := by
  -- The first lists are equally long, so that a place is in the first part of both or in
  -- the second part of both.
  by_cases early : place < left.length
  · rw [List.getElem?_append_left early, List.getElem?_append_left (lengths ▸ early)]
    exact before place
  · rw [List.getElem?_append_right (by omega), List.getElem?_append_right (by omega), lengths]
    exact behind _

/-- A handle stays in its family. -/
theorem Turn.kept {call : MemoryCall} {step : Step α} {after : Kindred}
    (turn : Turn layout reader kindred call step after) {handle family : Nat}
    (belongs : kindred.families[handle]? = some family) : after.families[handle]? = some family := by
  -- Families are only appended, and the place of the handle stays in front of what is.
  have early := (List.getElem?_eq_some_iff.mp belongs).1
  cases turn with
  | idle _ same => exact same ▸ belongs
  | within _ _ _ _ _ _ _ _ families => rw [families, List.getElem?_append_left early, belongs]
  | founding _ _ _ _ _ _ families => rw [families, List.getElem?_append_left early, belongs]

/-- Handles on the table of a family that join it leave it with all handles on the table and no others. -/
theorem Holds.grown {after : Kindred} {family place : Nat} {table changed : MemoryTable}
    (holds : kindred.Holds family place table) (sound : kindred.Sound) {lefts rights : List Nat}
    (families : after.families = kindred.families ++ lefts)
    (handles : after.handles.handles = kindred.handles.handles ++ rights)
    (behind : ∀ position : Nat, lefts[position]? = some family ↔ rights[position]? = some place)
    (stored : after.handles.tables[place]? = some changed) : after.Holds family place changed where
  stored := stored
  handles := by
    -- The handles that are appended join the family exactly where they lead to its table.
    rw [families, handles]
    exact getElem?_append_iff sound.lengths holds.handles behind
  founded := by
    rw [families, List.length_append]
    exact Nat.lt_add_right _ holds.founded

/-- A shared handle joins a family exactly when it leads to a place, if the handle that it comes from does. -/
theorem joins_iff (call : MemoryCall) {kin family other place : Nat}
    (alike : kin = family ↔ other = place) (position : Nat) :
    (call.joins kin)[position]? = some family ↔ (call.joins other)[position]? = some place := by
  cases call <;> cases position <;> simp [MemoryCall.joins, alike]

/-- A call on another family leaves a family and its table as they are. -/
theorem Turn.other {call : MemoryCall} {step : Step α} {after : Kindred}
    (turn : Turn layout reader kindred call step after) (sound : kindred.Sound) {family place : Nat}
    {table : MemoryTable} (holds : kindred.Holds family place table)
    (strange : step.family? ≠ some family) : after.Holds family place table := by
  cases turn with
  | idle _ same => exact same ▸ holds
  | @within handle other kin _ _ leads _ belongs named _ tables newHandles families =>
    -- The handle of another family leads to another place.
    have apart : kin ≠ family := fun same => strange (same ▸ named)
    have elsewhere : other ≠ place := by
      intro same
      have mine := (holds.handles handle).mpr (same ▸ leads)
      rw [belongs] at mine
      exact apart (Option.some.inj mine)
    refine holds.grown sound families newHandles (joins_iff call (iff_of_false apart elsewhere)) ?_
    rw [tables, List.getElem?_set_ne elsewhere]
    exact holds.stored
  | founding _ _ _ _ tables newHandles families =>
    -- The new handle founds another family, and leads behind all tables that there were.
    have bound := (List.getElem?_eq_some_iff.mp holds.stored).1
    have founded := holds.founded
    refine holds.grown sound families newHandles (fun position => ?_) ?_
    · cases position with
      | zero => simp; omega
      | succ position => simp
    · rw [tables, List.getElem?_append_left bound]
      exact holds.stored

/-- A call on a family acts on its table as it would if the table were the only one. -/
theorem Turn.own {call : MemoryCall} {step : Step α} {after : Kindred}
    (turn : Turn layout reader kindred call step after) (sound : kindred.Sound) {family place : Nat}
    {table : MemoryTable} {alone : MemoryHandles} (holds : kindred.Holds family place table)
    (only : alone.Alone table) (first : alone.handles[0]? = some 0)
    (named : step.family? = some family) :
    (alone.perform layout reader (call.through 0)).1.unnumbered = step.shown.unnumbered ∧
      after.StandsFor family (alone.perform layout reader (call.through 0)).2 := by
  cases turn with
  | idle strange _ =>
    rw [named] at strange
    cases strange
  | founding _ _ other =>
    -- A family that is founded now was not there before.
    have founded := holds.founded
    rw [named, Option.some.injEq] at other
    omega
  | @within handle other kin behind old leads storedToo belongs namedToo shown tables newHandles families =>
    rw [named, Option.some.injEq] at namedToo
    subst namedToo
    -- The handle leads to the table of the family.
    have same := (holds.handles handle).mp belongs
    rw [leads, Option.some.injEq] at same
    subst same
    have stored := holds.stored
    rw [storedToo, Option.some.injEq] at stored
    subst stored
    -- The table stands at the only place of the handles that are alone.
    have single : alone.tables[0]? = some behind := by simp [only.tables]
    obtain ⟨aloneShown, aloneTables, aloneHandles⟩ := MemoryHandles.perform_through
      layout reader old first single
    have holdsAfter : after.Holds family other (behind.respond reader call).2 := by
      refine holds.grown sound families newHandles (joins_iff call (iff_of_true rfl rfl)) ?_
      rw [tables]
      exact List.getElem?_set_self (List.getElem?_eq_some_iff.mp storedToo).1
    have onlyAfter : (alone.perform layout reader (call.through 0)).2.Alone
        (behind.respond reader call).2 := by
      refine ⟨?_, ?_⟩
      · rw [aloneTables, only.tables]
        rfl
      · intro number member
        rw [aloneHandles] at member
        rcases List.mem_append.mp member with before | added
        · exact only.numbers number before
        · cases call <;> simp_all [MemoryCall.joins]
    refine ⟨aloneShown.trans shown.symm, .founded holdsAfter onlyAfter ?_⟩
    rw [aloneHandles, List.getElem?_append_left (List.getElem?_eq_some_iff.mp first).1]
    exact first

/-- The call that founds a family makes its table, and the same table where the family is alone. -/
theorem Turn.founds {call : MemoryCall} {step : Step α} {after : Kindred}
    (turn : Turn layout reader kindred call step after) (sound : kindred.Sound) {family : Nat}
    (absent : family ∉ kindred.families) (named : step.family? = some family) :
    (MemoryHandles.empty.perform layout reader (call.through 0)).1.unnumbered = step.shown.unnumbered ∧
      after.StandsFor family (MemoryHandles.empty.perform layout reader (call.through 0)).2 := by
  cases turn with
  | idle strange _ =>
    rw [named] at strange
    cases strange
  | within _ _ _ belongs other =>
    rw [named, Option.some.injEq] at other
    exact absurd (List.mem_of_getElem? belongs) (other ▸ absent)
  | @founding table created made creation other shown tables handles families =>
    rw [named, Option.some.injEq] at other
    subst made other
    -- Alone the same call founds the first family of none, with the same table.
    have alone : MemoryHandles.empty.perform layout reader (.fresh table) =
        (⟨.handle 0, some created.size⟩, ⟨[created], [0]⟩) := by
      simp [MemoryHandles.perform, MemoryHandles.call, creation, MemoryHandles.empty,
        MemoryCall.handle?, MemoryHandles.table?]
    have holdsAfter : after.Holds kindred.families.length kindred.handles.tables.length created := by
      refine ⟨?_, ?_, ?_⟩
      · rw [tables]
        exact List.getElem?_concat_length
      · -- No earlier handle has the new family or leads to the new place.
        rw [families, handles]
        refine getElem?_append_iff sound.lengths (fun position => ?_) (fun position => ?_)
        · constructor
          · exact fun found => absurd (List.mem_of_getElem? found) absent
          · intro found
            exact absurd (sound.placed _ (List.mem_of_getElem? found)) (Nat.lt_irrefl _)
        · cases position <;> simp
      · rw [families, List.length_append]
        exact Nat.lt_add_one _
    rw [MemoryCall.through, alone]
    refine ⟨shown.symm, .founded holdsAfter ⟨rfl, ?_⟩ rfl⟩
    exact fun number member => List.mem_singleton.mp member

/-- A call on another family founds none that is not there yet. -/
theorem Turn.absent {call : MemoryCall} {step : Step α} {after : Kindred}
    (turn : Turn layout reader kindred call step after) {family : Nat}
    (absent : family ∉ kindred.families) (strange : step.family? ≠ some family) :
    family ∉ after.families := by
  -- Handles only join the family of the call, or found one that is numbered by the new handle.
  cases turn with
  | idle _ same => exact same ▸ absent
  | @within _ _ kin _ _ _ _ _ named _ _ _ families =>
    have apart : kin ≠ family := fun same => strange (same ▸ named)
    rw [families, List.mem_append, not_or]
    refine ⟨absent, ?_⟩
    cases call <;> simp [MemoryCall.joins, apart.symm]
  | founding _ _ named _ _ _ families =>
    have apart : family ≠ kindred.families.length := fun same => strange (same ▸ named)
    rw [families, List.mem_append, not_or]
    exact ⟨absent, by simpa using apart⟩

/-- What stands for a family stands for it after a call on it, once it has made the call too. -/
theorem StandsFor.own {family : Nat} {alone : MemoryHandles} (stands : kindred.StandsFor family alone)
    (sound : kindred.Sound) {call : MemoryCall}
    (named : (kindred.call layout reader call).1.family? = some family) :
    (alone.perform layout reader (call.through 0)).1.unnumbered =
        (kindred.call layout reader call).1.shown.unnumbered ∧
      (kindred.call layout reader call).2.StandsFor family
        (alone.perform layout reader (call.through 0)).2 := by
  -- The family has been founded before, or the call founds it.
  cases stands with
  | founded holds only first => exact (turn layout reader sound call).own sound holds only first named
  | unfounded absent => exact (turn layout reader sound call).founds sound absent named

/-- What stands for a family stands for it after a call on another one. -/
theorem StandsFor.other {family : Nat} {alone : MemoryHandles} (stands : kindred.StandsFor family alone)
    (sound : kindred.Sound) {call : MemoryCall}
    (strange : (kindred.call layout reader call).1.family? ≠ some family) :
    (kindred.call layout reader call).2.StandsFor family alone := by
  -- What stands for a family that was founded stays, and one that was not is not founded by strangers.
  cases stands with
  | founded holds only first =>
    exact .founded ((turn layout reader sound call).other sound holds strange) only first
  | unfounded absent => exact .unfounded ((turn layout reader sound call).absent absent strange)

/-- The first call of a run comes before the others. -/
theorem run_cons (kindred : Kindred) (call : MemoryCall) (rest : List MemoryCall) :
    kindred.run layout reader (call :: rest) =
      ((kindred.call layout reader call).1 ::
          ((kindred.call layout reader call).2.run layout reader rest).1,
        ((kindred.call layout reader call).2.run layout reader rest).2) := rfl

/-- A run is that of the handles. -/
theorem run_eq (calls : List MemoryCall) : ∀ kindred : Kindred,
    kindred.handles.run layout reader calls =
      ((kindred.run layout reader calls).1.map fun step => step.shown.answer,
        (kindred.run layout reader calls).2.handles) := by
  -- The induction is over all states, because the first call changes the one that the rest begins with.
  induction calls with
  | nil => exact fun _ => rfl
  | cons call rest ih =>
    intro kindred
    have later := ih (kindred.call layout reader call).2
    rw [run_cons, List.map_cons, MemoryHandles.run]
    exact congrArg (fun result : List (MemoryAnswer α) × MemoryHandles =>
      ((kindred.call layout reader call).1.shown.answer :: result.1, result.2)) later

/-- The steps of one family. -/
def stepsOf (family : Nat) (steps : List (Step α)) : List (Step α) :=
  steps.filter fun step => step.family? == some family

/-- The same calls through the first handle. -/
def callsOf (steps : List (Step α)) : List MemoryCall := steps.map fun step => step.call.through 0

variable (layout reader) in
/-- What stands for a family before a run stands for it after the run, with the calls on the family. -/
theorem StandsFor.run {family : Nat} (calls : List MemoryCall) :
    ∀ {kindred : Kindred} {alone : MemoryHandles}, kindred.StandsFor family alone → kindred.Sound →
      let result := kindred.run layout reader calls
      let own := stepsOf family result.1
      let mirror := alone.performAll layout reader (callsOf own)
      own.map (fun step => step.shown.unnumbered) = mirror.1.map Shown.unnumbered ∧
        result.2.StandsFor family mirror.2 ∧ result.2.Sound := by
  -- The invariant is carried from call to call, and calls on other families are passed over.
  induction calls with
  | nil => exact fun stands sound => ⟨rfl, stands, sound⟩
  | cons call rest ih =>
    intro kindred alone stands sound
    have later := (turn layout reader sound call).sound sound
    simp only [run_cons, stepsOf]
    by_cases named : (kindred.call layout reader call).1.family? = some family
    · obtain ⟨shown, standing⟩ := stands.own sound named
      obtain ⟨others, last⟩ := ih standing later
      simp only [List.filter_cons, named, beq_self_eq_true, if_true]
      exact ⟨congr (congrArg List.cons shown.symm) others, last⟩
    · simp only [List.filter_cons, beq_false_of_ne named, Bool.false_eq_true, if_false]
      exact ih (stands.other sound named) later

/-- A handle of a family leads to the table that stands for the family. -/
theorem StandsFor.table?_eq {family handle : Nat} {alone : MemoryHandles}
    (stands : kindred.StandsFor family alone) (belongs : kindred.families[handle]? = some family) :
    kindred.handles.table? handle = alone.table? 0 := by
  -- A family with a handle has been founded, and its handle leads to the table that stands for it.
  cases stands with
  | unfounded absent => exact absurd (List.mem_of_getElem? belongs) absent
  | founded holds only first =>
    have leads := (holds.handles handle).mp belongs
    simp [MemoryHandles.table?, leads, holds.stored, first, only.tables]

/--
In any run of calls on any number of tables and handles, the calls on one family of handles show what
they show if no others are made and the family has a single handle, but for the numbers of new handles;
afterwards the handles of the family lead to the same table as that handle. A further call on another
family leaves the table of the family as it is.
-/
theorem families_stand_apart (layout : Layout) (reader : RecordReader α) (calls : List MemoryCall)
    (family : Nat) :
    let result := empty.run layout reader calls
    let own := stepsOf family result.1
    let mirror := MemoryHandles.empty.performAll layout reader (callsOf own)
    MemoryHandles.empty.run layout reader calls =
        (result.1.map fun step => step.shown.answer, result.2.handles) ∧
      own.map (fun step => step.shown.unnumbered) = mirror.1.map Shown.unnumbered ∧
      (∀ handle : Nat, result.2.families[handle]? = some family →
        result.2.handles.table? handle = mirror.2.table? 0) ∧
      ∀ call, (result.2.call layout reader call).1.family? ≠ some family →
        ∀ handle : Nat, result.2.families[handle]? = some family →
          (result.2.call layout reader call).2.handles.table? handle =
            result.2.handles.table? handle := by
  intro result own mirror
  -- At the start there is no handle, so families are accounted for, and none is founded.
  have sound : empty.Sound := ⟨rfl, by simp [empty, MemoryHandles.empty], by simp [empty]⟩
  have start : empty.StandsFor family .empty := .unfounded (by simp [empty])
  obtain ⟨same, stands, last⟩ := start.run layout reader calls sound
  refine ⟨run_eq calls empty, same, fun handle belongs => stands.table?_eq belongs, ?_⟩
  -- A further call is one more step of the simulation, with the same table standing for the family.
  intro call strange handle belongs
  have after := stands.other last strange
  rw [after.table?_eq ((turn layout reader last call).kept belongs), stands.table?_eq belongs]

/-- Calls on two tables of games: two handles share the first one, and both take in a game of one key. -/
def crossedCalls : List MemoryCall := [.fresh (.named "games"), .fresh (.named "games"), .share 0,
  .insert 0 (MemoryHandles.gameRecord "a" .nan), .insert 1 (MemoryHandles.gameRecord "a" .nan),
  .insert 2 (MemoryHandles.gameRecord "a" .nan), .delete 2 "a", .delete 0 "a"]

/-- The second table knows of its own game only, and the first is seen to be empty through both handles. -/
theorem families_stand_apart_games :
    let result := empty.run MemoryHandles.gameLayout (ReadPlan.readout []) crossedCalls
    result.2.families = [0, 1, 0] ∧
    (stepsOf 0 result.1).map (fun step => step.shown.unnumbered) =
      [⟨.handle 0, some 0⟩, ⟨.handle 0, some 0⟩, ⟨.count 1, some 1⟩, ⟨.count 0, some 1⟩,
        ⟨.count 1, some 0⟩, ⟨.count 0, some 0⟩] ∧
    (stepsOf 1 result.1).map (fun step => step.shown.unnumbered) =
      [⟨.handle 0, some 0⟩, ⟨.count 1, some 1⟩] ∧
    result.2.handles.table? 0 = result.2.handles.table? 2 := by
  -- What each family shows is computed on its own table alone, and what it shows here follows.
  have apart := families_stand_apart MemoryHandles.gameLayout (ReadPlan.readout []) crossedCalls
  obtain ⟨_, first, tables, _⟩ := apart 0
  obtain ⟨_, second, _⟩ := apart 1
  refine ⟨rfl, first.trans rfl, second.trans rfl, ?_⟩
  exact (tables 0 rfl).trans (tables 2 rfl).symm

end Kindred

end RecordTables
