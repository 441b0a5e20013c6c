import RecordTables.Proofs.Statement.SelectReader

/-!
Statements that insert and delete records are read back from their texts: the table, the columns that they
name, and the placeholders.
-/

namespace RecordTables

namespace Statement

/-- What a statement that inserts a record says: the columns, and the placeholders for their values. -/
structure InsertionText where
  schema : Option String
  table : String
  columns : List String
  numbers : List Nat
  deriving DecidableEq, Repr

/-- What a statement that deletes rows says: the table and the column that its key is looked for in. -/
structure DeleteText where
  schema : Option String
  table : String
  column : String
  deriving DecidableEq, Repr

/-- Reads a numbered placeholder. -/
def readPlaceholder? (text : List Char) : Option (Nat × List Char) :=
  (after? "$" text).bind readNumber?

/-- Reads numbered placeholders; there may be none. -/
def readPlaceholders? (text : List Char) : Option (List Nat × List Char) :=
  if text.head? = some '$' then readSeparated? readPlaceholder? ", " text else some ([], text)

/-- Reads a statement that inserts a record and skips it in a conflict, and gives back what follows it. -/
def readInsertionFrom? (text : List Char) : Option (InsertionText × List Char) := do
  let text ← after? "INSERT INTO " text
  let (schema, table, text) ← readReference? text
  let text ← after? " (" text
  -- The names and the numbers are two lists, which only their order connects.
  let (columns, text) ← readColumns? text
  let text ← after? ") VALUES (" text
  let (numbers, text) ← readPlaceholders? text
  let text ← after? ") ON CONFLICT DO NOTHING" text
  return (⟨schema, table, columns, numbers⟩, text)

/-- Reads a statement that inserts a record, with nothing behind it. -/
def readInsertion? (text : String) : Option InsertionText :=
  match readInsertionFrom? text.toList with
  | some (said, []) => some said
  | _ => none

/-- Reads a statement that deletes the rows with a key. -/
def readDelete? (text : String) : Option DeleteText := do
  let text ← after? "DELETE FROM " text.toList
  let (schema, table, text) ← readReference? text
  let text ← after? " WHERE " text
  let (column, text) ← Identifier.unquote? text
  if text = " = $1".toList then return ⟨schema, table, column⟩ else none

/-- A placeholder is read back from its text. -/
theorem readPlaceholder?_placeholder (number : Nat) {rest : List Char} (delimits : Delimits rest) :
    readPlaceholder? ((placeholder number).toList ++ rest) = some (number, rest) := by
  -- Behind its sign a placeholder is the digits of its number.
  rw [placeholder, String.toList_append, List.append_assoc, readPlaceholder?, after?_append,
    Option.bind_some, String.toList_ofList]
  exact readNumber?_natText number delimits

/-- Placeholders are read back from their list, if the text that follows does not continue it. -/
theorem readPlaceholders?_joinWith (numbers : List Nat) {tail : List Char} (delimits : Delimits tail)
    (other : tail.head? ≠ some '$') (ended : after? ", " tail = none) :
    readPlaceholders? ((Text.joinWith ", " (numbers.map placeholder)).toList ++ tail) =
      some (numbers, tail) := by
  -- A sign tells whether there is a first placeholder.
  cases numbers with
  | nil =>
    unfold readPlaceholders?
    exact if_neg other
  | cons number others =>
    have begins : ((Text.joinWith ", " ((number :: others).map placeholder)).toList ++
        tail).head? = some '$' := by
      cases others <;> simp [Text.joinWith, placeholder]
    unfold readPlaceholders?
    rw [if_pos begins]
    refine readSeparated?_joinWith (by decide) ?_ delimits ended ?_
    · exact fun next => delimits_append next rfl (by decide)
    · exact fun number _ next following => readPlaceholder?_placeholder number following

/-- A statement that inserts a record is read back from its text, and what follows it is left. -/
theorem readInsertionFrom?_insertText (table : Table) (columns : List Column) (rest : List Char) :
    readInsertionFrom? ((insertText table.reference columns).toList ++ rest) =
      some (⟨table.schema, table.name, columns.map (·.name), List.range' 1 columns.length⟩, rest) := by
  -- The reference ends before a blank, and both lists before a bracket.
  have bracketed : ∀ rest, Delimits (" (".toList ++ rest) :=
    fun rest => delimits_append rest rfl (by decide)
  have closed : ∀ rest, Delimits (") VALUES (".toList ++ rest) :=
    fun rest => delimits_append rest rfl (by decide)
  have ended : Delimits (") ON CONFLICT DO NOTHING".toList ++ rest) :=
    delimits_append rest rfl (by decide)
  have reference := fun rest => readReference?_delimited table.schema table.name (bracketed rest)
  have listed := fun rest => readColumns?_joinWith (columns.map (·.name)) (closed rest)
    (after?_other rest (by decide) (by decide))
  have numbered := readPlaceholders?_joinWith (List.range' 1 columns.length) ended (by simp)
    (after?_other rest (by decide) (by decide))
  unfold insertText readInsertionFrom? Table.reference
  rw [columnList_eq]
  simp only [String.toList_append, List.append_assoc, after?_append, reference, listed, numbered,
    Option.bind_eq_bind, Option.bind_some, Option.pure_def]

/-- The columns and the placeholders of a statement that inserts a record are read back from its text. -/
theorem readInsertion?_insertText (table : Table) (columns : List Column) :
    readInsertion? (insertText table.reference columns) =
      some ⟨table.schema, table.name, columns.map (·.name), List.range' 1 columns.length⟩ := by
  -- With nothing behind the statement all of the text is read.
  have read := readInsertionFrom?_insertText table columns []
  rw [List.append_nil] at read
  rw [readInsertion?, read]

/-- The column of a statement that deletes rows is read back from its text. -/
theorem readDelete?_delete (table : Table) (column : String) :
    readDelete? (delete table.reference column) = some ⟨table.schema, table.name, column⟩ := by
  -- The reference and the column both end before a blank.
  have keyword : ∀ rest, Delimits (" WHERE ".toList ++ rest) :=
    fun rest => delimits_append rest rfl (by decide)
  have comparison : Delimits (" = $1".toList ++ []) := delimits_append [] rfl (by decide)
  have reference := fun rest => readReference?_delimited table.schema table.name (keyword rest)
  have named := unquote?_delimited column comparison
  rw [List.append_nil] at named
  unfold delete readDelete? Table.reference
  simp only [String.toList_append, List.append_assoc, after?_append, reference, named,
    Option.bind_eq_bind, Option.bind_some, if_true, Option.pure_def]

end Statement

end RecordTables
