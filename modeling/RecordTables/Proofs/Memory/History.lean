import Mathlib.Algebra.Ring.Nat
import RecordTables.Proofs.Memory.Consistency

/-!
A table in memory keeps an exact history: it holds the rows that came in and that no later deletion
took out, in the order in which they came in.
-/

namespace RecordTables

/-- Whether the key column of a row holds a text. -/
def Row.holdsKey (columns : List Column) (key : String) (row : Row) : Bool :=
  (row.cell (Column.keyName columns)).same (.text key)

/-- Whether a call asks for a table of its own. -/
def MemoryCall.makesTable : MemoryCall → Bool
  | .insert _ _ => false
  | .delete _ _ => false
  | .query _ _ => false
  | .share _ => false
  | .fresh _ => true

/-- What a call did to a table: a record came in, or so many rows with a key went out. -/
inductive Change where
  | stored (record : Record)
  | removed (key : String) (rows : Nat)

namespace Change

/-- The change that a call made, as its answer tells. -/
def of? {α : Type} : MemoryCall → MemoryAnswer α → Option Change
  | .insert _ record, .count 1 => some (.stored record)
  | .delete _ key, .count rows => some (.removed key rows)
  | _, _ => none

/-- The changes that calls made, in order. -/
def history {α : Type} (calls : List MemoryCall) (answers : List (MemoryAnswer α)) : List Change :=
  (calls.zip answers).filterMap fun (call, answer) => of? call answer

/-- The row that came in with a change. -/
def row? (columns : List Column) : Change → Option Row
  | .stored record => (Row.ofRecord columns record).toOption
  | .removed _ _ => none

/-- Whether a change takes a row out. -/
def removes (columns : List Column) (row : Row) : Change → Bool
  | .stored _ => false
  | .removed key _ => row.holdsKey columns key

/-- The rows that came in and that no later change took out, in the order in which they came in. -/
def standing (columns : List Column) : List Change → List Row
  | [] => []
  | change :: later =>
    ((change.row? columns).toList.filter fun row => !later.any (removes columns row)) ++
      standing columns later

/-- How many records came in with a change. -/
def added : Change → Nat
  | .stored _ => 1
  | .removed _ _ => 0

/-- How many rows a change took out. -/
def taken : Change → Nat
  | .stored _ => 0
  | .removed _ rows => rows

/-- How many rows with a key came in with a change. -/
def addedUnder (columns : List Column) (key : String) (change : Change) : Nat :=
  (change.row? columns).toList.countP (Row.holdsKey columns key)

/-- How many rows a change took out that was asked to take out a key. -/
def takenUnder (key : String) : Change → Nat
  | .stored _ => 0
  | .removed other rows => if other = key then rows else 0

end Change

/-- A value that is a text is no other text. -/
theorem Value.eq_of_same_text {value : Value} {key other : String}
    (same : value.same (.text key) = true) (sameOther : value.same (.text other) = true) :
    key = other := by
  exact Value.text.inj ((Value.same_text.mp same).symm.trans (Value.same_text.mp sameOther))

namespace MemoryTable

/-- A deletion counts the rows that hold the key. -/
theorem delete_count (table : MemoryTable) (key : String) :
    (table.delete key).1 = table.rows.countP (Row.holdsKey table.columns key) := by
  -- Every row either holds the key or is kept.
  have parts : table.rows.length = table.rows.countP (table.hasKey key) +
      (table.rows.filter fun row => !table.hasKey key row).length := by
    simpa [List.countP_eq_length_filter] using
      List.length_eq_countP_add_countP (table.hasKey key) (l := table.rows)
  exact Nat.sub_eq_of_eq_add parts

/-- In a table with a key, at most one row holds it. -/
theorem Consistent.holdsKey_le_one {table : MemoryTable} (consistent : table.Consistent)
    {column : Column} (known : column ∈ table.columns)
    (named : column.name = Column.keyName table.columns)
    (primary : column.constraints.primaryKey = true) (key : String) :
    table.rows.countP (Row.holdsKey table.columns key) ≤ 1 := by
  -- Two rows that hold the key would clash in the key column.
  have distinct := Constraints.requiresDistinct_of_primaryKey primary
  have apart := (consistent.distinct column known distinct).sublist
    (List.filter_sublist (p := Row.holdsKey table.columns key))
  have holding : ∀ row ∈ table.rows.filter (Row.holdsKey table.columns key),
      (row.cell column.name).same (.text key) = true := by
    intro row member
    rw [named]
    exact (List.mem_filter.mp member).2
  rw [List.countP_eq_length_filter]
  match rows : table.rows.filter (Row.holdsKey table.columns key) with
  | [] => exact Nat.zero_le 1
  | [_] => exact Nat.le_refl 1
  | first :: second :: rest =>
    rw [rows] at apart holding
    have clash := Value.clash_of_same_text (holding first (by simp)) (holding second (by simp))
    exact absurd clash (List.rel_of_pairwise_cons apart (by simp))

/-- A change leads from one table to another. -/
inductive Changes : MemoryTable → Change → MemoryTable → Prop where
  | stored {table after : MemoryTable} {record : Record}
    (insertion : table.insert record = .ok (1, after)) : Changes table (.stored record) after
  | removed (table : MemoryTable) (key : String) :
    Changes table (.removed key (table.delete key).1) (table.delete key).2

/-- Some changes lead from one table to another, one after the other. -/
inductive Evolves : MemoryTable → List Change → MemoryTable → Prop where
  | still (table : MemoryTable) : Evolves table [] table
  | next {table between after : MemoryTable} {change : Change} {changes : List Change}
    (step : table.Changes change between) (rest : Evolves between changes after) :
    Evolves table (change :: changes) after

/-- A change takes rows out, or puts one row behind the others, and leaves the columns. -/
theorem Changes.rows_eq {table after : MemoryTable} {change : Change}
    (step : table.Changes change after) :
    after.columns = table.columns ∧
      after.rows = (table.rows.filter fun row => !change.removes table.columns row) ++
        (change.row? table.columns).toList := by
  cases step with
  | stored insertion =>
    obtain ⟨row, made, rfl⟩ := insert_counted insertion
    refine ⟨rfl, ?_⟩
    simp only [Change.row?, made, Except.toOption, Option.toList_some]
    -- An insertion takes no row out.
    exact congrArg (· ++ [row]) (List.filter_eq_self.mpr fun _ _ => rfl).symm
  | removed key =>
    refine ⟨rfl, ?_⟩
    rw [Change.row?, Option.toList_none, List.append_nil]
    rfl

/-- After some changes the rows are those that stood before and those that came in, less those taken out. -/
theorem Evolves.rows_eq {table after : MemoryTable} {changes : List Change}
    (evolves : table.Evolves changes after) :
    after.columns = table.columns ∧
      after.rows = (table.rows.filter fun row => !changes.any (Change.removes table.columns row)) ++
        Change.standing table.columns changes := by
  -- The first change acts on the rows before it, and the later ones on what it leaves.
  induction evolves with
  | still table =>
    rw [Change.standing, List.append_nil]
    exact ⟨rfl, (List.filter_eq_self.mpr fun _ _ => rfl).symm⟩
  | @next table between after change changes step _ ih =>
    obtain ⟨columns, rows⟩ := step.rows_eq
    obtain ⟨lastColumns, lastRows⟩ := ih
    refine ⟨lastColumns.trans columns, ?_⟩
    rw [lastRows, columns, rows, List.filter_append, List.filter_filter, List.append_assoc]
    simp only [Change.standing, List.any_cons, Bool.not_or, Bool.and_comm]

/--
What every change adds to and takes from a number of a table, a whole history does, as long as the
tables have the same columns.
-/
theorem Evolves.balance {table after : MemoryTable} {changes : List Change}
    (evolves : table.Evolves changes after) (held : MemoryTable → Nat) (came went : Change → Nat)
    (step : ∀ {earlier later : MemoryTable} {change : Change}, earlier.columns = table.columns →
      earlier.Changes change later → held later + went change = held earlier + came change) :
    held after + (changes.map went).sum = held table + (changes.map came).sum := by
  -- No change alters the columns, so the law of one change holds at every table on the way.
  induction evolves with
  | still table => rfl
  | @next table between after change changes first _ ih =>
    have columns := first.rows_eq.1
    have here := step rfl first
    have later := ih (fun same => step (same.trans columns))
    simp only [List.map_cons, List.sum_cons]
    omega

/-- A change adds as many rows as came in, and takes as many as it counted. -/
theorem Changes.size_add {table after : MemoryTable} {change : Change}
    (step : table.Changes change after) : after.size + change.taken = table.size + change.added := by
  -- What a deletion counts is what the rows are fewer.
  cases step with
  | stored insertion =>
    obtain ⟨row, _, rfl⟩ := insert_counted insertion
    simp [size, Change.taken, Change.added]
  | removed key =>
    have fewer := List.length_filter_le (fun row => !table.hasKey key row) table.rows
    exact Nat.add_sub_cancel' fewer

/-- A change adds and takes as many rows with a key as it counted under the key. -/
theorem Changes.holdsKey_add {table after : MemoryTable} {change : Change}
    (step : table.Changes change after) (key : String) :
    after.rows.countP (Row.holdsKey table.columns key) + change.takenUnder key =
      table.rows.countP (Row.holdsKey table.columns key) + change.addedUnder table.columns key := by
  rw [step.rows_eq.2, List.countP_append, List.countP_filter, ← Change.addedUnder]
  cases step with
  | stored insertion => simp [Change.removes, Change.takenUnder]
  | removed other =>
    -- A deletion takes all rows with its own key, and none with another.
    by_cases same : other = key
    · subst same
      simp [Change.removes, Change.takenUnder, Change.addedUnder, Change.row?, delete_count]
    · have untouched : (fun row => Row.holdsKey table.columns key row &&
          !row.holdsKey table.columns other) = Row.holdsKey table.columns key := by
        funext row
        cases holds : row.holdsKey table.columns key with
        | false => rfl
        | true =>
          have free : row.holdsKey table.columns other = false := by
            refine Bool.eq_false_iff.mpr fun holdsOther => same ?_
            exact Value.eq_of_same_text holdsOther holds
          simp [free]
      simp [Change.removes, Change.takenUnder, Change.addedUnder, Change.row?, untouched, same]

end MemoryTable

namespace MemoryHandles

/-- All handles are on the only table. -/
structure Alone (handles : MemoryHandles) (table : MemoryTable) : Prop where
  tables : handles.tables = [table]
  numbers : ∀ number ∈ handles.handles, number = 0

/-- A handle on the only table leads to it. -/
theorem Alone.table?_eq {handles : MemoryHandles} {table found : MemoryTable} {handle : Nat}
    (alone : handles.Alone table) (leads : handles.table? handle = some found) : found = table := by
  -- Whatever a handle leads to is one of the tables, and there is one.
  have member := table?_mem leads
  rw [alone.tables] at member
  exact List.mem_singleton.mp member

/-- A table put behind a handle on the only table is the only one then. -/
theorem Alone.update {handles : MemoryHandles} {table found : MemoryTable} {handle : Nat}
    (alone : handles.Alone table) (leads : handles.table? handle = some found)
    (changed : MemoryTable) : (handles.update handle changed).Alone changed := by
  -- All handles lead to the first table, so it is the first that is replaced.
  unfold table? at leads
  unfold MemoryHandles.update
  cases held : handles.handles[handle]? with
  | none => simp [held] at leads
  | some number =>
    have first := alone.numbers number (List.mem_of_getElem? held)
    refine ⟨?_, alone.numbers⟩
    simp [alone.tables, first]

/-- One call on the only table makes the change that its answer tells, or none. -/
theorem Alone.effect {α : Type} {layout : Layout} {handles after : MemoryHandles} {table : MemoryTable}
    {call : MemoryCall} {answer : MemoryAnswer α} (alone : handles.Alone table)
    (effect : Effect layout handles call answer after) (within : call.makesTable = false) :
    ∃ changed, after.Alone changed ∧
      ((Change.of? call answer = none ∧ changed = table) ∨
        ∃ change, Change.of? call answer = some change ∧ table.Changes change changed) := by
  cases effect with
  | kept uncounted =>
    -- Only an answer with a count can tell of a change.
    refine ⟨table, alone, Or.inl ⟨?_, rfl⟩⟩
    unfold Change.of?
    split
    · exact absurd rfl (uncounted 1)
    · exact absurd rfl (uncounted _)
    · rfl
  | @inserted _ _ _ _ changed found insertion =>
    cases alone.table?_eq found
    refine ⟨changed, alone.update found changed, ?_⟩
    -- A record that was passed over is no change, and then the table is as it was.
    rcases MemoryTable.insert_cases insertion with ⟨passed, unchanged⟩ | ⟨_, _, _, _, stored, _⟩
    · subst passed
      exact Or.inl ⟨rfl, unchanged⟩
    · subst stored
      exact Or.inr ⟨_, rfl, .stored insertion⟩
  | deleted found key =>
    cases alone.table?_eq found
    exact ⟨_, alone.update found _, Or.inr ⟨_, rfl, .removed _ key⟩⟩
  | shared held =>
    refine ⟨table, ⟨alone.tables, ?_⟩, Or.inl ⟨rfl, rfl⟩⟩
    -- The new handle is on the table of an old one.
    intro other member
    rcases List.mem_append.mp member with before | added
    · exact alone.numbers other before
    · rw [List.mem_singleton.mp added]
      exact alone.numbers _ (List.mem_of_getElem? held)
  | made => cases within

/-- Any run of calls on the only table leads it through the changes that the answers tell. -/
theorem Alone.run {α : Type} (layout : Layout) (reader : RecordReader α) (calls : List MemoryCall) :
    ∀ {handles : MemoryHandles} {table : MemoryTable}, handles.Alone table →
      (∀ call ∈ calls, call.makesTable = false) →
      ∃ after, (handles.run layout reader calls).2.Alone after ∧
        table.Evolves (Change.history calls (handles.run layout reader calls).1) after := by
  -- Each answer tells of one change at most, and the run goes on from the table it leaves.
  induction calls with
  | nil => exact fun alone _ => ⟨_, alone, .still _⟩
  | cons call rest ih =>
    intro handles table alone within
    obtain ⟨between, aloneBetween, outcome⟩ :=
      alone.effect (effect_call layout reader handles call) (within call List.mem_cons_self)
    obtain ⟨after, aloneAfter, evolves⟩ :=
      ih aloneBetween fun call member => within call (List.mem_cons_of_mem _ member)
    refine ⟨after, aloneAfter, ?_⟩
    rcases outcome with ⟨nothing, same⟩ | ⟨change, told, step⟩
    · subst same
      simpa [MemoryHandles.run, Change.history, nothing] using evolves
    · simpa [MemoryHandles.run, Change.history, told] using MemoryTable.Evolves.next step evolves

/--
After any calls through the handles of a new table with a key, its rows are those of the records that
were stored and that no later deletion took out, in the order in which they were stored. Its size is
the number of records stored less the number of rows that deletions counted, and under every key the
records stored less the rows counted are at most one: they are the rows that hold the key, and what
its deletion counts next.
-/
theorem run_keeps_history {α : Type} {table : Table} {layout : Layout} {made : MemoryTable}
    (creation : MemoryTable.create table layout = .ok made)
    (keyed : ∃ column ∈ made.columns, column.name = Column.keyName made.columns ∧
      column.constraints.primaryKey = true)
    (reader : RecordReader α) {calls : List MemoryCall} {answers : List (MemoryAnswer α)}
    {last : MemoryHandles} (within : ∀ call ∈ calls, call.makesTable = false)
    (ran : (single made).run layout reader calls = (answers, last)) :
    ∃ stored, last.Alone stored ∧
      stored.rows = Change.standing made.columns (Change.history calls answers) ∧
      stored.size + ((Change.history calls answers).map Change.taken).sum =
        ((Change.history calls answers).map Change.added).sum ∧
      ∀ key : String,
        (stored.delete key).1 + ((Change.history calls answers).map (Change.takenUnder key)).sum =
          ((Change.history calls answers).map (Change.addedUnder made.columns key)).sum ∧
        (stored.delete key).1 = stored.rows.countP (Row.holdsKey made.columns key) ∧
        (stored.delete key).1 ≤ 1 := by
  -- The new table is empty, so its history accounts for all that is in it.
  obtain ⟨column, known, named, primary⟩ := keyed
  have alone : (single made).Alone made :=
    ⟨rfl, fun number member => List.mem_singleton.mp member⟩
  have ⟨stored, lastAlone, evolves⟩ := alone.run layout reader calls within
  -- Beside the balance of the changes there is what every reached table keeps: a key is held once at most.
  have reached := (allReached_single creation).run reader calls
  simp only [ran] at lastAlone evolves reached
  have empty := (MemoryTable.create_cases creation).2
  obtain ⟨columns, rows⟩ := evolves.rows_eq
  have size := evolves.balance MemoryTable.size Change.added Change.taken fun _ step => step.size_add
  refine ⟨stored, lastAlone, ?_, ?_, ?_⟩
  · rw [rows, empty]
    rfl
  · rwa [show made.size = 0 from congrArg List.length empty, Nat.zero_add] at size
  · intro key
    have member : stored ∈ last.tables := by simp [lastAlone.tables]
    have consistent := (reached stored member).consistent.2
    have count := stored.delete_count key
    rw [columns] at count
    -- Of the changes only those under the key count here.
    have balance := evolves.balance
      (fun table => table.rows.countP (Row.holdsKey made.columns key))
      (Change.addedUnder made.columns key) (Change.takenUnder key)
      fun same step => same ▸ step.holdsKey_add key
    rw [empty, List.countP_nil, Nat.zero_add, ← count] at balance
    refine ⟨balance, count, ?_⟩
    rw [stored.delete_count key]
    exact consistent.holdsKey_le_one (columns ▸ known) (columns ▸ named) primary key

/-- Calls on the table of games: one comes again after its deletion, and then once more. -/
def repeatedCalls : List MemoryCall := [.insert 0 (gameRecord "a" (.zero .double false)),
  .insert 0 (gameRecord "b" .nan), .delete 0 "a", .insert 0 (gameRecord "a" (.zero .double true)),
  .insert 0 (gameRecord "a" .nan), .delete 0 "c"]

/-- The answers to these calls: the last insertion is passed over. -/
def repeatedAnswers : List (MemoryAnswer Readout) := [.count 1, .count 1, .count 1, .count 1, .count 0,
  .count 0]

/-- The game that came again stands behind the one that stayed, and is the only one with its key. -/
theorem run_keeps_history_games :
    ((single games).run gameLayout (ReadPlan.readout []) repeatedCalls).1 = repeatedAnswers ∧
    ∃ stored, ((single games).run gameLayout (ReadPlan.readout []) repeatedCalls).2.Alone stored ∧
      stored.rows.map (·.cell "id") = [.text "b", .text "a"] ∧ stored.size = 2 ∧
      (stored.delete "a").1 = 1 := by
  -- The answers say what the calls have changed, and the theorem what stands in the table then.
  have answered : ((single games).run gameLayout (ReadPlan.readout []) repeatedCalls).1 =
    repeatedAnswers := rfl
  have creation : MemoryTable.create (.named "games") gameLayout = .ok games := rfl
  have within : ∀ call ∈ repeatedCalls, call.makesTable = false := by
    simp [repeatedCalls, MemoryCall.makesTable]
  obtain ⟨stored, alone, rows, size, keys⟩ := run_keeps_history creation
    ⟨⟨"key", "id", .text, ⟨true, false, false⟩⟩, List.mem_cons_self, rfl, rfl⟩
    (ReadPlan.readout []) within (Prod.ext answered rfl)
  refine ⟨answered, stored, alone, ?_, ?_, ?_⟩
  · rw [rows]
    rfl
  · exact Nat.add_right_cancel (m := 1) size
  · exact Nat.add_right_cancel (m := 1) (keys "a").1

end MemoryHandles

end RecordTables
