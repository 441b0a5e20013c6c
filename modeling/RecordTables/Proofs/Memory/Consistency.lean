import RecordTables.Memory.Shared
import RecordTables.Proofs.Column.Layout
import RecordTables.Proofs.Memory.Row

/-!
Tables in memory keep the promises of their columns: every row has all columns, required columns
hold values, and no two rows share a value of a column whose values are distinct.
-/

namespace RecordTables

/-- The values of a key are distinct. -/
theorem Constraints.requiresDistinct_of_primaryKey {constraints : Constraints}
    (primary : constraints.primaryKey = true) : constraints.requiresDistinct = true := by
  rw [requiresDistinct, primary, Bool.true_or]

/-- Two values clash when they are one value and not null. -/
def Value.Clash (left right : Value) : Prop := left.isNull = false ∧ left.same right = true

/-- Clashing is symmetric. -/
theorem Value.Clash.symm {left right : Value} (clash : left.Clash right) : right.Clash left := by
  -- Equal values are of one kind, so both are null or neither is.
  obtain ⟨present, equal⟩ := clash
  refine ⟨?_, (Value.same_comm right left).trans equal⟩
  exact (Value.isNull_congr (Value.kind_eq_of_same equal)).symm.trans present

/-- Two values that are one text clash. -/
theorem Value.clash_of_same_text {left right : Value} {key : String}
    (leftSame : left.same (.text key) = true) (rightSame : right.same (.text key) = true) :
    left.Clash right := by
  -- A value that is a text is not null.
  refine ⟨Value.isNull_congr (Value.kind_eq_of_same leftSame), ?_⟩
  exact Value.same_trans leftSame ((Value.same_comm _ _).trans rightSame)

namespace MemoryTable

/-- The rows of a table keep what its columns promise. -/
structure Consistent (table : MemoryTable) : Prop where
  named : ∀ row ∈ table.rows, row.names.Perm (table.columns.map (·.name))
  filled : ∀ row ∈ table.rows, ∀ column ∈ table.columns,
    column.constraints.requiresValue = true → (row.cell column.name).isNull = false
  distinct : ∀ column ∈ table.columns, column.constraints.requiresDistinct = true →
    table.rows.Pairwise fun row other => ¬ (row.cell column.name).Clash (other.cell column.name)

/-- In a consistent table no two rows hold one key. -/
theorem Consistent.others_differ {table : MemoryTable} (consistent : table.Consistent)
    {column : Column} {before behind : List Row} {row : Row} {key : String}
    (keyed : table.columns.find? (fun column => column.constraints.primaryKey) = some column)
    (split : table.rows = before ++ row :: behind) (held : row.cell column.name = .text key) :
    ∀ other ∈ before ++ behind, other.cell column.name ≠ .text key := by
  -- Two rows with the key would clash in the key column, whichever of them comes first.
  have primary : column.constraints.primaryKey = true := by simpa using List.find?_some keyed
  have pairs := consistent.distinct column (List.mem_of_find?_eq_some keyed)
    (Constraints.requiresDistinct_of_primaryKey primary)
  rw [split, List.pairwise_append, List.pairwise_cons] at pairs
  obtain ⟨_, ⟨back, _⟩, front⟩ := pairs
  have clash : ∀ {first second : Row}, first.cell column.name = .text key →
      second.cell column.name = .text key →
      (first.cell column.name).Clash (second.cell column.name) := fun one two =>
    Value.clash_of_same_text (Value.same_text.mpr one) (Value.same_text.mpr two)
  intro other member same
  rcases List.mem_append.mp member with earlier | later
  · exact front other earlier row (.head _) (clash same held)
  · exact back other later (clash held same)

/-- The tables that calls can lead to, from the empty table of a layout on. -/
inductive Reached (layout : Layout) : MemoryTable → Prop where
  | created {table : Table} {made : MemoryTable} (creation : create table layout = .ok made) :
    Reached layout made
  | inserted {table after : MemoryTable} {record : Record} {count : Nat}
    (before : Reached layout table) (insertion : table.insert record = .ok (count, after)) :
    Reached layout after
  | deleted {table : MemoryTable} (key : String) (before : Reached layout table) :
    Reached layout (table.delete key).2

/-- A new table has the columns of its layout and no rows. -/
theorem create_cases {table : Table} {layout : Layout} {made : MemoryTable}
    (creation : create table layout = .ok made) :
    layout.columns = .ok made.columns ∧ made.rows = [] := by
  -- Only when every check has passed is there a table.
  unfold create at creation
  cases validated : table.validate with
  | error failure => simp [validated] at creation
  | ok _ =>
    cases flattened : layout.columns with
    | error failure => simp [validated, flattened] at creation
    | ok columns =>
      simp only [validated, flattened] at creation
      cases typed : Column.storages columns with
      | error failure => simp [typed, Except.map] at creation
      | ok types =>
        simp only [typed, Except.map, Except.ok.injEq] at creation
        subst made
        exact ⟨rfl, rfl⟩

/-- An insertion either passes the record over, or adds the one row that the columns allow. -/
theorem insert_cases {table after : MemoryTable} {record : Record} {count : Nat}
    (insertion : table.insert record = .ok (count, after)) :
    (count = 0 ∧ after = table) ∨
    ∃ row, Row.ofRecord table.columns record = .ok row ∧ table.nullColumn? row = none ∧
      table.conflict? row = none ∧ count = 1 ∧ after = { table with rows := table.rows ++ [row] } := by
  -- A record either becomes a row at the end or leaves the table as it is.
  unfold insert at insertion
  cases made : Row.ofRecord table.columns record with
  | error failure => simp [made] at insertion
  | ok row =>
    simp only [made] at insertion
    cases missing : table.nullColumn? row with
    | some column => simp [missing] at insertion
    | none =>
      simp only [missing] at insertion
      cases conflict : table.conflict? row with
      | some column =>
        simp only [conflict, Except.ok.injEq, Prod.mk.injEq] at insertion
        exact Or.inl ⟨insertion.1.symm, insertion.2.symm⟩
      | none =>
        simp only [conflict, Except.ok.injEq, Prod.mk.injEq] at insertion
        exact Or.inr ⟨row, rfl, missing, conflict, insertion.1.symm, insertion.2.symm⟩

/-- An insertion that counts a record puts its row behind all others. -/
theorem insert_counted {table after : MemoryTable} {record : Record}
    (insertion : table.insert record = .ok (1, after)) :
    ∃ row, Row.ofRecord table.columns record = .ok row ∧
      after = { table with rows := table.rows ++ [row] } := by
  -- A record that is passed over is not counted.
  rcases insert_cases insertion with ⟨impossible, _⟩ | ⟨row, made, _, _, _, grown⟩
  · cases impossible
  · exact ⟨row, made, grown⟩

/-- A row without a missing value holds one in every column that needs it. -/
theorem filled_of_nullColumn? {table : MemoryTable} {row : Row} (checked : table.nullColumn? row = none)
    {column : Column} (member : column ∈ table.columns)
    (required : column.constraints.requiresValue = true) :
    (row.cell column.name).isNull = false := by
  have passed := List.find?_eq_none.mp checked column member
  simpa [required] using passed

/-- A row without a conflict clashes with no row in a column of distinct values. -/
theorem apart_of_conflict? {table : MemoryTable} {row : Row} (checked : table.conflict? row = none)
    {column : Column} (member : column ∈ table.columns)
    (distinct : column.constraints.requiresDistinct = true) {other : Row} (stored : other ∈ table.rows) :
    ¬ (other.cell column.name).Clash (row.cell column.name) := by
  -- A row that clashed with the new one would have been found in conflict with it.
  intro clash
  have passed := List.find?_eq_none.mp checked column member
  simp only [distinct, Bool.true_and, List.any_eq_true, not_exists, not_and] at passed
  -- The check reads the new row's cell first, so the clash is turned around.
  exact passed other stored (by simp [collides, clash.symm.1, clash.2])

/-- Inserting keeps the promises of the columns. -/
theorem Consistent.insert {table after : MemoryTable} {record : Record} {count : Nat}
    (consistent : table.Consistent) (names : (table.columns.map (·.name)).Nodup)
    (insertion : table.insert record = .ok (count, after)) : after.Consistent := by
  -- The new row has passed both checks, and all others are as they were.
  rcases insert_cases insertion with ⟨_, same⟩ | ⟨row, made, complete, free, _, grown⟩
  · exact same ▸ consistent
  · subst grown
    refine ⟨?_, ?_, ?_⟩
    · intro stored member
      rcases List.mem_append.mp member with before | added
      · exact consistent.named stored before
      · rw [List.mem_singleton.mp added]
        exact Row.names_ofRecord names made
    · intro stored member column known required
      rcases List.mem_append.mp member with before | added
      · exact consistent.filled stored before column known required
      · rw [List.mem_singleton.mp added]
        exact filled_of_nullColumn? complete known required
    · intro column known distinct
      -- The new row stands last, and the check compared it with every row before it.
      refine List.pairwise_append.mpr
        ⟨consistent.distinct column known distinct, List.pairwise_singleton _ _, ?_⟩
      intro stored before added last
      rw [List.mem_singleton.mp last]
      exact apart_of_conflict? free known distinct before

/-- Deleting keeps the promises of the columns. -/
theorem Consistent.delete {table : MemoryTable} (consistent : table.Consistent) (key : String) :
    (table.delete key).2.Consistent where
  -- Rows that are left stood there before, in the same order.
  named row member := consistent.named row ((List.mem_filter.mp member).1)
  filled row member := consistent.filled row ((List.mem_filter.mp member).1)
  distinct column known distinct :=
    (consistent.distinct column known distinct).sublist List.filter_sublist

/-- Every table that calls lead to has the columns of its layout and keeps their promises. -/
theorem Reached.consistent {layout : Layout} {table : MemoryTable} (reached : Reached layout table) :
    layout.columns = .ok table.columns ∧ table.Consistent := by
  -- Each way of reaching a table keeps the promises: the induction is on how it was reached.
  induction reached with
  | created creation =>
    obtain ⟨flattened, empty⟩ := create_cases creation
    refine ⟨flattened, ?_, ?_, ?_⟩
    · simp [empty]
    · simp [empty]
    · simp [empty]
  | @inserted table after record count _ insertion ih =>
    obtain ⟨flattened, consistent⟩ := ih
    have kept := consistent.insert (Layout.columns_nodup flattened) insertion
    rcases insert_cases insertion with ⟨_, same⟩ | ⟨row, _, _, _, _, grown⟩
    · exact ⟨same ▸ flattened, kept⟩
    · exact ⟨by rw [grown]; exact flattened, kept⟩
  | deleted key _ ih => exact ⟨ih.1, ih.2.delete key⟩

/-- Rows at two positions never clash in a column of distinct values. -/
theorem Consistent.apart {table : MemoryTable} (consistent : table.Consistent) {column : Column}
    (known : column ∈ table.columns) (distinct : column.constraints.requiresDistinct = true)
    {first second : Nat} {row other : Row} (atFirst : table.rows[first]? = some row)
    (atSecond : table.rows[second]? = some other) (different : first ≠ second) :
    ¬ (row.cell column.name).Clash (other.cell column.name) := by
  -- Of two positions one comes first, and a clash of two rows goes both ways.
  have pairs := List.pairwise_iff_getElem.mp (consistent.distinct column known distinct)
  obtain ⟨firstBound, firstRow⟩ := List.getElem?_eq_some_iff.mp atFirst
  obtain ⟨secondBound, secondRow⟩ := List.getElem?_eq_some_iff.mp atSecond
  subst firstRow secondRow
  -- The rows are compared in one order only, but clashing is symmetric.
  rcases Nat.lt_or_gt_of_ne different with before | after
  · exact pairs first second firstBound secondBound before
  · exact fun clash => pairs second first secondBound firstBound after clash.symm

end MemoryTable

namespace MemoryHandles

/-- Carries out calls one after the other, and gives back their answers. -/
def run {α : Type} (layout : Layout) (reader : RecordReader α) (handles : MemoryHandles) :
    List MemoryCall → List (MemoryAnswer α) × MemoryHandles
  | [] => ([], handles)
  | call :: rest =>
    let (answer, after) := handles.call layout reader call
    let (answers, last) := run layout reader after rest
    (answer :: answers, last)

/-- Every table behind the handles is one that calls lead to. -/
def AllReached (layout : Layout) (handles : MemoryHandles) : Prop :=
  ∀ table ∈ handles.tables, MemoryTable.Reached layout table

/-- The table behind a handle is one of the tables. -/
theorem table?_mem {handles : MemoryHandles} {handle : Nat} {table : MemoryTable}
    (found : handles.table? handle = some table) : table ∈ handles.tables := by
  -- A handle that finds a table has its position among the tables.
  unfold table? at found
  cases held : handles.handles[handle]? with
  | none => simp [held] at found
  | some number =>
    simp only [held, Option.bind_some] at found
    exact List.mem_of_getElem? found

/-- Putting a reached table behind a handle keeps all tables reached. -/
theorem AllReached.update {layout : Layout} {handles : MemoryHandles}
    (reached : handles.AllReached layout) (handle : Nat) {table : MemoryTable}
    (changed : MemoryTable.Reached layout table) : (handles.update handle table).AllReached layout := by
  -- Only the table in the place of the handle changes.
  intro other member
  unfold MemoryHandles.update at member
  split at member
  · exact reached other member
  · rcases List.mem_or_eq_of_mem_set member with before | same
    · exact reached other before
    · exact same ▸ changed

/--
What a call answers and leaves: all that there was, if it fails or only asks; a table that was changed by
an insertion or a deletion; one more handle on a table; or a new table behind a new handle.
-/
inductive Effect {α : Type} (layout : Layout) (handles : MemoryHandles) :
    MemoryCall → MemoryAnswer α → MemoryHandles → Prop
  | kept {call : MemoryCall} {answer : MemoryAnswer α} (uncounted : ∀ rows, answer ≠ .count rows) :
    Effect layout handles call answer handles
  | inserted {handle count : Nat} {record : Record} {table changed : MemoryTable}
    (found : handles.table? handle = some table) (insertion : table.insert record = .ok (count, changed)) :
    Effect layout handles (.insert handle record) (.count count) (handles.update handle changed)
  | deleted {handle : Nat} {table : MemoryTable} (found : handles.table? handle = some table)
    (key : String) :
    Effect layout handles (.delete handle key) (.count (table.delete key).1)
      (handles.update handle (table.delete key).2)
  | shared {handle number : Nat} (held : handles.handles[handle]? = some number) :
    Effect layout handles (.share handle) (.handle handles.handles.length)
      { handles with handles := handles.handles ++ [number] }
  | made {table : Table} {created : MemoryTable} (creation : MemoryTable.create table layout = .ok created) :
    Effect layout handles (.fresh table) (.handle handles.handles.length)
      ⟨handles.tables ++ [created], handles.handles ++ [handles.tables.length]⟩

/-- Every call has one of these effects. -/
theorem effect_call {α : Type} (layout : Layout) (reader : RecordReader α) (handles : MemoryHandles)
    (call : MemoryCall) :
    Effect layout handles call (handles.call layout reader call).1 (handles.call layout reader call).2 := by
  -- Without a table behind the handle, and with a failure, there is nothing to do.
  cases call with
  | insert handle record =>
    cases found : handles.table? handle with
    | none =>
      simp only [MemoryHandles.call, found]
      exact .kept nofun
    | some table =>
      cases insertion : table.insert record with
      | error failure =>
        simp only [MemoryHandles.call, found, insertion]
        exact .kept nofun
      | ok result =>
        simp only [MemoryHandles.call, found, insertion]
        exact .inserted found insertion
  | delete handle key =>
    cases found : handles.table? handle with
    | none =>
      simp only [MemoryHandles.call, found]
      exact .kept nofun
    | some table =>
      simp only [MemoryHandles.call, found]
      exact .deleted found key
  | query handle request =>
    cases found : handles.table? handle with
    | none =>
      simp only [MemoryHandles.call, found]
      exact .kept nofun
    | some table =>
      -- Rows are only looked at.
      cases answer : table.query reader request with
      | error failure =>
        simp only [MemoryHandles.call, found, answer]
        exact .kept nofun
      | ok items =>
        simp only [MemoryHandles.call, found, answer]
        exact .kept nofun
  | share handle =>
    cases held : handles.handles[handle]? with
    | none =>
      simp only [MemoryHandles.call, held]
      exact .kept nofun
    | some number =>
      simp only [MemoryHandles.call, held]
      exact .shared held
  | fresh table =>
    cases creation : MemoryTable.create table layout with
    | error failure =>
      simp only [MemoryHandles.call, creation]
      exact .kept nofun
    | ok created =>
      simp only [MemoryHandles.call, creation]
      exact .made creation

/-- Whatever a call does, it leads from reached tables to reached tables. -/
theorem Effect.allReached {α : Type} {layout : Layout} {handles after : MemoryHandles}
    {call : MemoryCall} {answer : MemoryAnswer α} (effect : Effect layout handles call answer after)
    (reached : handles.AllReached layout) : after.AllReached layout := by
  cases effect with
  | kept => exact reached
  | inserted found insertion =>
    exact reached.update _ (.inserted (reached _ (table?_mem found)) insertion)
  | deleted found key => exact reached.update _ (.deleted key (reached _ (table?_mem found)))
  | shared held => exact fun other member => reached other member
  | made creation =>
    -- The tables that were there are reached as before, and the new one has just been made.
    intro other member
    rcases List.mem_append.mp member with before | added
    · exact reached other before
    · rw [List.mem_singleton.mp added]
      exact .created creation

/-- Any run of calls leads from reached tables to reached tables. -/
theorem AllReached.run {α : Type} {layout : Layout} (reader : RecordReader α)
    (calls : List MemoryCall) : ∀ {handles : MemoryHandles}, handles.AllReached layout →
      (handles.run layout reader calls).2.AllReached layout := by
  -- The invariant is carried from call to call.
  induction calls with
  | nil => exact fun reached => reached
  | cons call rest ih => exact fun reached => ih ((effect_call layout reader _ call).allReached reached)

/-- A new table alone behind one handle is reached. -/
theorem allReached_single {table : Table} {layout : Layout} {made : MemoryTable}
    (creation : MemoryTable.create table layout = .ok made) : (single made).AllReached layout := by
  -- The only table is the one that was made.
  intro other member
  rw [List.mem_singleton.mp member]
  exact .created creation

/--
Whatever calls are made on a new table and its handles, every table behind them has the columns of the
layout, and its rows have exactly these columns, hold values where values are required, and differ
from each other where values are distinct. So an equality filter on a column of distinct values keeps
at most one row with a value of the kind looked for.
-/
theorem run_keeps_promises {α : Type} {table : Table} {layout : Layout} {made : MemoryTable}
    (creation : MemoryTable.create table layout = .ok made) (reader : RecordReader α)
    (calls : List MemoryCall) :
    ∀ stored ∈ ((single made).run layout reader calls).2.tables,
      layout.columns = .ok stored.columns ∧
      (∀ row ∈ stored.rows, row.names.Perm (stored.columns.map (·.name))) ∧
      (∀ row ∈ stored.rows, ∀ column ∈ stored.columns,
        (column.constraints.primaryKey || column.constraints.notNull) = true →
          (row.cell column.name).isNull = false) ∧
      ∀ column ∈ stored.columns,
        (column.constraints.primaryKey || column.constraints.unique) = true →
        (∀ (first second : Nat) (row other : Row), stored.rows[first]? = some row →
          stored.rows[second]? = some other → first ≠ second →
          (row.cell column.name).isNull = false →
            (row.cell column.name).same (other.cell column.name) = false) ∧
        ∀ value : Value, value.isNull = false →
          ∀ (first second : Nat) (row other : Row), stored.rows[first]? = some row →
            stored.rows[second]? = some other →
            (row.cell column.name).kind = value.kind → (other.cell column.name).kind = value.kind →
            Filter.keeps ⟨column.name, .equal, value⟩ row = true →
            Filter.keeps ⟨column.name, .equal, value⟩ other = true → first = second := by
  -- The tables behind the handles are all reached, and what is reached is consistent.
  intro stored member
  have reached := (allReached_single creation).run reader calls stored member
  obtain ⟨flattened, consistent⟩ := reached.consistent
  refine ⟨flattened, consistent.named, consistent.filled, ?_⟩
  intro column known distinct
  refine ⟨?_, ?_⟩
  · intro first second row other atFirst atSecond different present
    have apart := consistent.apart known distinct atFirst atSecond different
    exact Bool.eq_false_iff.mpr fun equal => apart ⟨present, equal⟩
  · intro value given first second row other atFirst atSecond firstKind secondKind keeps keeps'
    -- Two rows equal to one value are equal to each other, so they cannot stand at two positions.
    have firstEqual := (Filter.accepts_equal given firstKind).symm.trans keeps
    have secondEqual := (Filter.accepts_equal given secondKind).symm.trans keeps'
    by_cases different : first = second
    · exact different
    · have equal := Value.same_trans firstEqual ((Value.same_comm _ _).trans secondEqual)
      have present := (Value.isNull_congr firstKind).trans given
      exact absurd ⟨present, equal⟩ (consistent.apart known distinct atFirst atSecond different)

/-- A layout with a key, and a score in a group that no two games share. -/
def gameLayout : Layout := [.field ⟨"key", some "id", .text, ⟨true, false, false⟩⟩,
  .group "result" [.field ⟨"points", some "score", .floating 64, ⟨false, false, true⟩⟩]]

/-- The empty table of games. -/
def games : MemoryTable := ⟨"games", [⟨"key", "id", .text, ⟨true, false, false⟩⟩,
  ⟨"points", "score", .floating 64, ⟨false, false, true⟩⟩], []⟩

/-- The record of a game. -/
def gameRecord (key : String) (score : Double) : Record :=
  (Dictionary.empty.insert "key" (.text key)).insert "points" (.real score)

/-- Calls through two handles: one score comes again as minus zero, and one that is not a number twice. -/
def gameCalls : List MemoryCall := [.insert 0 (gameRecord "a" (.zero .double false)), .share 0,
  .insert 1 (gameRecord "b" (.zero .double true)), .insert 1 (gameRecord "c" .nan),
  .insert 0 (gameRecord "d" .nan), .delete 0 "a"]

/-- The two games that are left have exactly the columns of their table. -/
theorem run_keeps_promises_games :
    MemoryTable.create (.named "games") gameLayout = .ok games ∧
    ((single games).run gameLayout (ReadPlan.readout []) gameCalls).2.tables.map (·.size) = [2] ∧
    ∀ stored ∈ ((single games).run gameLayout (ReadPlan.readout []) gameCalls).2.tables,
      ∀ row ∈ stored.rows, row.names.Perm (stored.columns.map (·.name)) := by
  have creation : MemoryTable.create (.named "games") gameLayout = .ok games := rfl
  refine ⟨creation, rfl, fun stored member => ?_⟩
  exact (run_keeps_promises creation (ReadPlan.readout []) gameCalls stored member).2.1

end MemoryHandles

end RecordTables
