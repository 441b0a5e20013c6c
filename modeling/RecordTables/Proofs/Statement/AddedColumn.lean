import RecordTables.Proofs.Statement.Names
import RecordTables.Server.Basic

/-! A statement that adds a column is read back from its text, so the catalog gets the type declared for it. -/

namespace RecordTables

/-- The constraints that remain in SQL, where a primary key says the other two already. -/
def Constraints.written (constraints : Constraints) : Constraints :=
  if constraints.primaryKey then ⟨true, false, false⟩ else constraints

/-- What is left of constraints in SQL has the same text. -/
theorem Constraints.sql_written (constraints : Constraints) : constraints.written.sql = constraints.sql := by
  obtain ⟨primaryKey, notNull, unique⟩ := constraints
  cases primaryKey <;> rfl

namespace Statement

/-- The constraints that end a statement are read back. -/
theorem readConstraints?_sql (constraints : Constraints) :
    readConstraints? constraints.sql.toList = some constraints.written := by
  -- There are only eight sets of constraints.
  obtain ⟨primaryKey, notNull, unique⟩ := constraints
  cases primaryKey <;> cases notNull <;> cases unique <;> decide

/-- Constraints follow a column type behind a blank, if there are any. -/
theorem sql_head_blank (constraints : Constraints) :
    constraints.sql.toList.head?.all (· == ' ') = true := by
  -- There are only eight sets of constraints.
  obtain ⟨primaryKey, notNull, unique⟩ := constraints
  cases primaryKey <;> cases notNull <;> cases unique <;> decide

/-- The name of a column type is read back, also where it begins that of another type. -/
theorem readStorage?_sqlName (storage : StorageType) {rest : List Char}
    (blank : rest.head?.all (· == ' ') = true) :
    readStorage? (storage.sqlName.toList ++ rest) = some (storage, rest) := by
  -- The longer of two names with one beginning is tried first.
  have found := after?_append storage.sqlName rest
  -- Of two different names only one begins the other.
  have apart : ∀ first second : StorageType, first ≠ second →
      ¬ (first = .text ∧ second = .textList) → ¬ first.sqlName.toList <+: second.sqlName.toList := by
    intro first second
    cases first <;> cases second <;> decide
  by_cases longest : storage = .textList
  · subst storage
    simp only [readStorage?, storagesByLength, List.findSome?_cons, found, Option.map_some]
  · have listed : storage ∈ storagesByLength := by cases storage <;> decide
    refine findSome?_of_passed listed (by rw [found]; rfl) ?_
    intro other _ different
    by_cases longer : storage = .text ∧ other = .textList
    · obtain ⟨rfl, rfl⟩ := longer
      -- The longer name would go on with a bracket.
      cases rest with
      | nil => decide
      | cons first others =>
        have same : first = ' ' := by simpa using blank
        subst same
        rfl
    · have shorter : ¬ (other = .text ∧ storage = .textList) := fun both => longest both.2
      rw [after?_other rest (apart other storage different shorter)
        (apart storage other different.symm longer)]
      rfl

/-- A statement that adds a column is read back from its text. -/
theorem readAddColumn?_addColumn (table : Table) (column : Column) (storage : StorageType) :
    readAddColumn? (addColumn table column storage) =
      some ⟨table.schema, table.name, column.name, storage, column.constraints.written⟩ := by
  -- Each reader stops where the next part begins, which is never a quote or a point.
  have referenceRead : readReference? ((Table.qualify table.schema table.name).toList ++
      (" ADD COLUMN ".toList ++ ((Identifier.quote column.name).toList ++ (" ".toList ++
        (storage.sqlName.toList ++ column.constraints.sql.toList))))) = some (_, _, _) :=
    readReference?_qualify table.schema table.name (by simp) (by simp)
  have nameRead : Identifier.unquote? ((Identifier.quote column.name).toList ++ (" ".toList ++
      (storage.sqlName.toList ++ column.constraints.sql.toList))) = some (column.name, _) :=
    Identifier.unquote?_quote column.name (by simp)
  simp only [addColumn, columnDefinition, Table.reference, String.toList_append, List.append_assoc,
    readAddColumn?, after?_append, referenceRead, nameRead, readStorage?_sqlName storage
    (sql_head_blank column.constraints), readConstraints?_sql, Option.bind_eq_bind,
    Option.bind_some, Option.pure_def]

/-- A server has the name in its catalog that is expected for the type with a name in SQL. -/
theorem lookup_catalogTypes (storage : StorageType) :
    Server.catalogTypes.lookup storage.sqlName = some storage.catalogName := by
  cases storage <;> decide

/-- The catalog gets the type that was declared for a column. -/
theorem addedType_addColumn (table : Table) (column : Column) (storage : StorageType) :
    Server.addedType (addColumn table column storage) = storage.catalogName := by
  simp only [Server.addedType, readAddColumn?_addColumn, lookup_catalogTypes, Option.getD_some]

/-- What is read as constraints is their text, and it says no more than is left of them in SQL. -/
theorem eq_of_readConstraints? {text : List Char} {constraints : Constraints}
    (read : readConstraints? text = some constraints) :
    text = constraints.sql.toList ∧ constraints.written = constraints := by
  have spelled : constraints.sql.toList = text := by simpa using List.find?_some read
  -- There are only five sets of constraints that are told apart.
  have kept : ∀ listed ∈ writtenConstraints, listed.written = listed := by decide
  exact ⟨spelled.symm, kept constraints (List.mem_of_find?_eq_some read)⟩

/-- What is read as the name of a column type is its name. -/
theorem eq_of_readStorage? {text rest : List Char} {storage : StorageType}
    (read : readStorage? text = some (storage, rest)) : text = storage.sqlName.toList ++ rest := by
  -- The types are tried one after the other, and one of them stood there.
  obtain ⟨tried, _, found⟩ := List.exists_of_findSome?_eq_some read
  obtain ⟨left, behind, same⟩ := Option.map_eq_some_iff.mp found
  cases same
  exact eq_of_after? behind

/-- What is read as a statement that adds a column is such a statement, with the parts that are read. -/
theorem eq_of_readAddColumn? {text : String} {added : AddedColumn}
    (read : readAddColumn? text = some added) :
    text = "ALTER TABLE " ++ Table.qualify added.schema added.table ++ " ADD COLUMN " ++
        (Identifier.quote added.name ++ " " ++ added.storage.sqlName ++ added.constraints.sql) ∧
      added.constraints.written = added.constraints := by
  -- Every reader leaves what follows to the next one.
  simp only [readAddColumn?, Option.bind_eq_bind, Option.bind_eq_some_iff, Option.pure_def,
    Option.some.injEq] at read
  obtain ⟨_, first, ⟨schema, table, _⟩, referenced, _, second, ⟨name, _⟩, named, _, third,
    ⟨storage, _⟩, typed, constraints, constrained, rfl⟩ := read
  dsimp only at second third constrained ⊢
  obtain ⟨rfl, kept⟩ := eq_of_readConstraints? constrained
  refine ⟨String.toList_inj.mp ?_, kept⟩
  rw [eq_of_after? first, (eq_of_readReference? referenced).1, eq_of_after? second,
    (Identifier.unquote?_eq_some.mp named).1, eq_of_after? third, eq_of_readStorage? typed]
  simp only [String.toList_append, List.append_assoc]

/--
A statement that adds a column is read back from its text, and nothing else is read as one. Two of them have
the same text exactly if they name the same schema, table, column and type, and the same constraints once a
primary key has taken up the other two. Whatever the column is called and whatever constraints follow, the
type that a server finds in the text is the one declared, and its catalog gets that.
-/
theorem added_column_text_faithful :
    (∀ text added, readAddColumn? text = some added ↔
      ∃ (table : Table) (column : Column) (storage : StorageType),
        text = addColumn table column storage ∧
        added = ⟨table.schema, table.name, column.name, storage, column.constraints.written⟩) ∧
    (∀ (table other : Table) (column another : Column) (storage stored : StorageType),
      addColumn table column storage = addColumn other another stored ↔
        table.schema = other.schema ∧ table.name = other.name ∧ column.name = another.name ∧
          storage = stored ∧ column.constraints.written = another.constraints.written) ∧
    ∀ (table : Table) (column : Column) (storage : StorageType),
      Server.addedType (addColumn table column storage) = storage.catalogName ∧
      ∀ (server : Server) (reply : DataReply),
        (server.perform reply (.addColumn column.name (addColumn table column storage))).2.catalog =
          { server.catalog with columns :=
            server.catalog.columns ++ [(column.name, storage.catalogName)] } := by
  refine ⟨fun text added => ⟨fun read => ?_, ?_⟩, fun table other column another storage stored => ?_,
    fun table column storage => ⟨addedType_addColumn table column storage, fun server reply => ?_⟩⟩
  · -- A table and a column with the parts that were read have this statement.
    obtain ⟨rfl, kept⟩ := eq_of_readAddColumn? read
    refine ⟨⟨added.table, added.schema, none, true⟩, ⟨"", added.name, .text, added.constraints⟩,
      added.storage, rfl, ?_⟩
    rw [kept]
  · rintro ⟨table, column, storage, rfl, rfl⟩
    exact readAddColumn?_addColumn table column storage
  · constructor
    · intro same
      -- The text is read in one way only, and both statements are read from it.
      have readings := readAddColumn?_addColumn table column storage
      rw [same, readAddColumn?_addColumn] at readings
      simp only [Option.some.injEq, AddedColumn.mk.injEq] at readings
      obtain ⟨schema, name, called, stored, kept⟩ := readings
      exact ⟨schema.symm, name.symm, called.symm, stored.symm, kept.symm⟩
    · rintro ⟨schema, name, called, rfl, kept⟩
      unfold addColumn columnDefinition Table.reference
      rw [schema, name, called, ← column.constraints.sql_written, kept, another.constraints.sql_written]
  · rw [← addedType_addColumn table column storage]
    rfl

end Statement

end RecordTables
