import RecordTables.Json.Written
import RecordTables.Proofs.Dictionary

/-!
Documents as they would be written: they name no member twice, and are read back as they are. The document
of any text has its members in order.
-/

namespace RecordTables

namespace Written

mutual

/-- Whether no object in a JSON text gives a name twice. -/
def Distinct : Written → Prop
  | .array items => DistinctItems items
  | .object members => (members.map Prod.fst).Nodup ∧ DistinctMembers members
  | _ => True

/-- Whether no object in any of the items gives a name twice. -/
def DistinctItems : List Written → Prop
  | [] => True
  | item :: rest => item.Distinct ∧ DistinctItems rest

/-- Whether no object in the value of any member gives a name twice. -/
def DistinctMembers : List (WrittenText × Written) → Prop
  | [] => True
  | (_, value) :: rest => value.Distinct ∧ DistinctMembers rest

end

/-- The entries of members have the names that are written, if they have documents at all. -/
theorem names_members? : ∀ {members : List (WrittenText × Written)} {entries : List (String × Json)},
    members? members = some entries → members.map Prod.fst = entries.map fun entry => some entry.1
  | [], _, read => by
    cases read
    rfl
  | (name, value) :: rest, entries, read => by
    unfold members? at read
    split at read
    · rename_i name document others _ found
      cases read
      exact congrArg (some name :: ·) (names_members? found)
    · cases read

/-- The entries of members with different names have different names. -/
theorem nodup_members? {members : List (WrittenText × Written)} {entries : List (String × Json)}
    (read : members? members = some entries) (distinct : (members.map Prod.fst).Nodup) :
    (entries.map Prod.fst).Nodup := by
  -- The names are the same on both sides, but for their being texts that were read.
  rw [names_members? read] at distinct
  have named : (entries.map Prod.fst).map some = entries.map fun entry => some entry.1 := List.map_map
  rw [← named] at distinct
  exact List.Pairwise.of_map some (fun _ _ different same => different (congrArg some same)) distinct

end Written

namespace Json

mutual

/-- A document whose members are in order is that of its own text. -/
theorem document?_written : ∀ {document : Json}, document.Ordered →
    document.written.document? = some document
  | .null, _ => rfl
  | .boolean _, _ => rfl
  | .number _, _ => rfl
  | .string _, _ => rfl
  | .array items, ordered => congrArg (Option.map Json.array) (documents?_writtenItems ordered)
  | .object members, ordered => by
    -- The members are sorted already.
    unfold written Written.document?
    rw [members?_writtenMembers ordered.2, Option.map_some, sortEntries_of_ascending ordered.1]

/-- Items whose members are in order are those of their own texts. -/
theorem documents?_writtenItems : ∀ {items : List Json}, OrderedItems items →
    Written.documents? (writtenItems items) = some items
  | [], _ => rfl
  | item :: rest, ordered => by
    unfold writtenItems Written.documents?
    rw [document?_written ordered.1, documents?_writtenItems ordered.2]

/-- Members are those that would be written. -/
theorem members?_writtenMembers : ∀ {members : List (String × Json)}, OrderedMembers members →
    Written.members? (writtenMembers members) = some members
  | [], _ => rfl
  | (name, value) :: rest, ordered => by
    unfold writtenMembers Written.members?
    rw [document?_written ordered.1, members?_writtenMembers ordered.2]

end

/-- The names that would be written are those of the members. -/
theorem names_writtenMembers (members : List (String × Json)) :
    (writtenMembers members).map Prod.fst = (members.map Prod.fst).map some := by
  induction members with
  | nil => rfl
  | cons member rest ih => exact congrArg (some member.1 :: ·) ih

mutual

/-- A document whose members are in order would be written without naming a member twice. -/
theorem distinct_written : ∀ {document : Json}, document.Ordered → document.written.Distinct
  | .null, _ => trivial
  | .boolean _, _ => trivial
  | .number _, _ => trivial
  | .string _, _ => trivial
  | .array _, ordered => distinct_writtenItems ordered
  | .object members, ordered => by
    refine ⟨?_, distinct_writtenMembers ordered.2⟩
    rw [names_writtenMembers]
    exact List.Pairwise.map some (fun _ _ different same => different (Option.some.inj same))
      ordered.1.nodup

/-- Items whose members are in order would be written without naming a member twice. -/
theorem distinct_writtenItems : ∀ {items : List Json}, OrderedItems items →
    Written.DistinctItems (writtenItems items)
  | [], _ => trivial
  | _ :: _, ordered => ⟨distinct_written ordered.1, distinct_writtenItems ordered.2⟩

/-- The values of members would be written without naming a member twice. -/
theorem distinct_writtenMembers : ∀ {members : List (String × Json)}, OrderedMembers members →
    Written.DistinctMembers (writtenMembers members)
  | [], _ => trivial
  | (_, _) :: _, ordered => ⟨distinct_written ordered.1, distinct_writtenMembers ordered.2⟩

end

/-- Members are ordered when every value is. -/
theorem orderedMembers_iff {members : List (String × Json)} :
    OrderedMembers members ↔ ∀ member ∈ members, member.2.Ordered := by
  -- Both sides say it of the first value and of the rest.
  induction members with
  | nil => exact iff_of_true trivial nofun
  | cons member rest ih =>
    rw [List.forall_mem_cons, ← ih]
    rfl

end Json

namespace Written

mutual

/-- The document of a text has its members in order. -/
theorem ordered_document? : ∀ {written : Written} {document : Json}, written.document? = some document →
    document.Ordered
  | .null, _, read => by
    cases read
    trivial
  | .boolean _, _, read => by
    cases read
    trivial
  | .number _, _, read => by
    obtain ⟨_, _, rfl⟩ := Option.map_eq_some_iff.mp read
    trivial
  | .string _, _, read => by
    obtain ⟨_, _, rfl⟩ := Option.map_eq_some_iff.mp read
    trivial
  | .array items, _, read => by
    obtain ⟨documents, held, rfl⟩ := Option.map_eq_some_iff.mp read
    exact ordered_documents? held
  | .object members, _, read => by
    obtain ⟨entries, held, rfl⟩ := Option.map_eq_some_iff.mp read
    refine ⟨ascending_sortEntries entries, Json.orderedMembers_iff.mpr fun entry member => ?_⟩
    exact ordered_members? held entry (mem_sortEntries member)

/-- The documents of items have their members in order. -/
theorem ordered_documents? : ∀ {items : List Written} {documents : List Json},
    documents? items = some documents → Json.OrderedItems documents
  | [], _, read => by
    cases read
    trivial
  | item :: rest, _, read => by
    unfold documents? at read
    split at read
    · rename_i document others first found
      cases read
      exact ⟨ordered_document? first, ordered_documents? found⟩
    · cases read

/-- The documents of members have their own members in order. -/
theorem ordered_members? : ∀ {members : List (WrittenText × Written)} {entries : List (String × Json)},
    members? members = some entries → ∀ entry ∈ entries, entry.2.Ordered
  | [], _, read => by
    cases read
    exact nofun
  | (name, value) :: rest, _, read => by
    unfold members? at read
    split at read
    · rename_i name document others first found
      cases read
      exact List.forall_mem_cons.mpr ⟨ordered_document? first, ordered_members? found⟩
    · cases read

end

end Written

end RecordTables
