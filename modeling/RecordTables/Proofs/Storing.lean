import RecordTables.Proofs.Memory.Insertion
import RecordTables.Proofs.Server.Acceptance

/-!
A record with a value for every field of a layout is stored, in memory as well as on a server, if no two
of the fields have the same name. Where two have, in groups or not, the layout is accepted all the same;
but the first field takes the value for both, and the record is refused for want of a second one.
-/

namespace RecordTables

open Statement (parcelLayout parcelRecord)

/-- A record has a value other than null for every field of a layout. -/
def Record.Covers (record : Record) (layout : Layout) : Prop :=
  ∀ leaf ∈ Layout.leaves layout, ∃ value, record.get? leaf.name = some value ∧ value.isNull = false

/-- A repository was made for a layout, of any table and on any server. -/
def Repository.MadeFor (layout : Layout) (repository : Repository) : Prop :=
  ∃ table script server after,
    Repository.create table layout script server = (.done repository, after)

section Covering

variable {layout : Layout} {record : Record}

/-- A record that covers a layout has the names of all fields. -/
theorem Record.Covers.named (covers : record.Covers layout) :
    ∀ name ∈ (Layout.leaves layout).map (·.name), name ∈ record.names := by
  -- The record has a value for each leaf, under the name of the leaf.
  intro name listed
  obtain ⟨leaf, member, rfl⟩ := List.mem_map.mp listed
  obtain ⟨value, held, _⟩ := covers leaf member
  rw [Dictionary.mem_names, held]
  rfl

/-- A record that covers a layout misses a value only for a name that comes again, the first such one. -/
theorem Record.Covers.misses (covers : record.Covers layout) {field : String} :
    record.Misses ((Layout.leaves layout).map (·.name)) field ↔
      (repeatedNames ((Layout.leaves layout).map (·.name))).head? = some field := by
  -- No name is absent, so a name is missed only behind one that is the same.
  rw [head?_repeatedNames]
  have named := covers.named
  constructor
  · rintro ⟨before, behind, split, distinct, _, taken | absent⟩
    · exact ⟨before, behind, split, distinct, taken⟩
    · exact absurd (named field (split ▸ by simp)) absent
  · rintro ⟨before, behind, split, distinct, taken⟩
    refine ⟨before, behind, split, distinct, fun earlier member => ?_, .inl taken⟩
    exact named earlier (split ▸ List.mem_append_left _ member)

/-- A table in memory takes every record that covers its layout, if no two fields share a name. -/
theorem MemoryTable.Reached.insert_covering {held : MemoryTable} (reached : Reached layout held)
    (covers : record.Covers layout) (distinct : ((Layout.leaves layout).map (·.name)).Nodup) :
    ∃ count after, held.insert record = .ok (count, after) := by
  have flattened := reached.consistent.1
  have fields := Layout.fields_columns flattened
  obtain ⟨row, made⟩ := Row.ofRecord_held (fields ▸ distinct) (fields ▸ covers.named)
  -- The cells of the row are the values of the record, and none of them is null.
  have filled : ∀ column ∈ held.columns, ¬ column.Lacks row := by
    rintro column member ⟨_, null⟩
    have taken := Row.cell_ofRecord (Layout.columns_nodup flattened) made column member
    have named : column.field ∈ (Layout.leaves layout).map (·.name) :=
      fields ▸ List.mem_map_of_mem member
    obtain ⟨leaf, within, same⟩ := List.mem_map.mp named
    obtain ⟨given, found, present⟩ := covers leaf within
    rw [same, taken, Option.some.injEq, null] at found
    rw [← found] at present
    cases present
  by_cases repeats : ∃ column ∈ held.columns, column.Repeats held.rows row
  · exact ⟨_, _, MemoryTable.insert_repeating made filled repeats⟩
  · have free : ∀ column ∈ held.columns, ¬ column.Repeats held.rows row :=
      fun column known repeated => repeats ⟨column, known, repeated⟩
    exact ⟨_, _, MemoryTable.insert_free made filled free⟩

/-- A repository refuses a record for the first value that it misses, before any statement is sent. -/
theorem Repository.MadeFor.insert_missing {repository : Repository} (made : MadeFor layout repository)
    {field : String} (misses : record.Misses ((Layout.leaves layout).map (·.name)) field)
    (reply : DataReply) (server : Server) :
    repository.insert record reply server = (.failed (.missingValue field), server) := by
  -- There is no statement, so the server is not asked.
  obtain ⟨table, script, first, after, done⟩ := made
  obtain ⟨flattened, types, typed⟩ := prepare_ok (create_done done).1
  rw [← Layout.fields_columns flattened] at misses
  unfold insert
  rw [Statement.insert_eq typed, Record.takeValues_missed misses]
  rfl

/--
A repository sends the statement of every record that covers its layout, if no two fields share a name,
so that to insert it fails only as the server fails.
-/
theorem Repository.MadeFor.insert_covering {repository : Repository} (made : MadeFor layout repository)
    (covers : record.Covers layout) (distinct : ((Layout.leaves layout).map (·.name)).Nodup)
    {reply : DataReply} {server : Server} {failure : Failure}
    (failed : (repository.insert record reply server).1 = .failed failure) :
    (∃ fault, failure = .insertion repository.table.name fault) ∨
      failure = .timeout "insert" repository.table.name := by
  obtain ⟨table, script, first, after, done⟩ := made
  obtain ⟨flattened, types, typed⟩ := prepare_ok (create_done done).1
  have fields := Layout.fields_columns flattened
  unfold insert at failed
  rw [Statement.insert_eq typed, fields, Record.takeValues_held distinct covers.named] at failed
  -- The statement is there, so it is sent, and then the rows are counted that the reply reports.
  rcases Session.andThen_failed failed with unmade | ⟨insertion, after, _, sent⟩
  · cases unmade
  · rcases Session.andThen_failed sent with refused | ⟨answer, last, _, uncounted⟩
    · exact Session.send_failed refused
    · cases uncounted

/--
If no two fields of a layout have the same name, every record that covers the layout is stored: in memory
it is always taken, and on a server it is refused by the server alone. Otherwise every such record is
refused for the first name that comes again, as if it had no value for that field.
-/
theorem covering_record_stored (covers : record.Covers layout) :
    (((Layout.leaves layout).map (·.name)).Nodup →
      (∀ held, MemoryTable.Reached layout held →
        ∃ count after, held.insert record = .ok (count, after)) ∧
      ∀ repository, Repository.MadeFor layout repository → ∀ reply server failure,
        (repository.insert record reply server).1 = .failed failure →
          (∃ fault, failure = .insertion repository.table.name fault) ∨
            failure = .timeout "insert" repository.table.name) ∧
    ∀ field, (repeatedNames ((Layout.leaves layout).map (·.name))).head? = some field →
      (∀ held, MemoryTable.Reached layout held →
        held.insert record = .error (.missingValue field)) ∧
      ∀ repository, Repository.MadeFor layout repository → ∀ reply server,
        repository.insert record reply server = (.failed (.missingValue field), server) := by
  -- A covering record misses a field only where its name comes again.
  constructor
  · intro distinct
    exact ⟨fun held reached => reached.insert_covering covers distinct,
      fun repository made _ _ _ failed => made.insert_covering covers distinct failed⟩
  · intro field repeated
    have misses := covers.misses.mpr repeated
    exact ⟨fun held reached => reached.insert_missing misses,
      fun repository made reply server => made.insert_missing misses reply server⟩

end Covering

/-- A layout with two groups that have a city each, in columns of their own. -/
def orderLayout : Layout :=
  [.group "billing" [.field ⟨"city", some "billing_city", .text, .none⟩],
    .group "shipping" [.field ⟨"city", some "shipping_city", .text, .none⟩]]

/-- The columns of orders. -/
def orderColumns : List Column :=
  [⟨"city", "billing_city", .text, .none⟩, ⟨"city", "shipping_city", .text, .none⟩]

/-- The record of an order. -/
def orderRecord : Record := Dictionary.empty.insert "city" (.text "Bern")

/-- The server that the orders are on. -/
def orderServer : Server := .start .reachable ⟨false, []⟩

/-- The record of an order has a text for each field. -/
theorem orderRecord_covers : orderRecord.Covers orderLayout := by
  -- Both leaves have the name of the city.
  intro leaf member
  have named : ∀ leaf ∈ Layout.leaves orderLayout, leaf.name = "city" := by decide
  rw [named leaf member]
  exact ⟨.text "Bern", rfl, rfl⟩

/-- Orders can be held, but the record of one is refused for its city, which is there. -/
theorem order_refused_for_city :
    MemoryTable.create (.named "orders") orderLayout = .ok ⟨"orders", orderColumns, []⟩ ∧
    orderRecord.Covers orderLayout ∧
    MemoryTable.insert ⟨"orders", orderColumns, []⟩ orderRecord = .error (.missingValue "city") ∧
    ∃ repository after,
      Repository.create (.named "orders") orderLayout [] orderServer = (.done repository, after) ∧
      ∀ reply server,
        repository.insert orderRecord reply server = (.failed (.missingValue "city"), server) := by
  -- The columns have different names, so that the layout is good on both sides.
  have created : MemoryTable.create (.named "orders") orderLayout =
      .ok ⟨"orders", orderColumns, []⟩ := rfl
  have prepared : Repository.prepare (.named "orders") orderLayout = .ok orderColumns := rfl
  have typed : Column.storages orderColumns = .ok [.text, .text] := rfl
  have spared : ∀ step ∈ Reconciliation.steps (.named "orders") orderServer.catalog
      (orderColumns.zip [.text, .text]), Session.Spared [] step :=
    (Session.spared_iff _ _).mpr fun _ impossible => absurd impossible List.not_mem_nil
  have reachable : orderServer.link = .reachable := rfl
  have done := Repository.create_spared prepared typed reachable spared
  -- The city goes to the first column of that name, and the second one finds none left.
  have misses : orderRecord.Misses ["city", "city"] "city" :=
    ⟨["city"], [], rfl, by decide, by decide, .inl (by decide)⟩
  exact ⟨created, orderRecord_covers, (MemoryTable.Reached.created created).insert_missing misses,
    _, _, done, Repository.MadeFor.insert_missing ⟨_, _, _, _, done⟩ misses⟩

/-- The record of a parcel is stored by every table for parcels, and that of an order by no table for orders. -/
theorem covering_record_stored_parcels :
    parcelRecord.Covers parcelLayout ∧ orderRecord.Covers orderLayout ∧
    (∀ held, MemoryTable.Reached parcelLayout held →
      ∃ count after, held.insert parcelRecord = .ok (count, after)) ∧
    ∀ held, MemoryTable.Reached orderLayout held →
      held.insert orderRecord = .error (.missingValue "city") := by
  have covers : parcelRecord.Covers parcelLayout := by
    refine List.forall_mem_cons.mpr ⟨⟨.text "k7", rfl, rfl⟩, ?_⟩
    exact List.forall_mem_singleton.mpr ⟨.boolean true, rfl, rfl⟩
  -- The parcel has no field name twice, and the order has the city twice.
  have stored := (covering_record_stored covers).1 (by decide)
  have refused := (covering_record_stored orderRecord_covers).2 "city" (by decide)
  exact ⟨covers, orderRecord_covers, stored.1, refused.1⟩

end RecordTables
