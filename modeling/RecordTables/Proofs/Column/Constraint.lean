import RecordTables.Column.Constraint
import RecordTables.Proofs.Text

/-!
Constraint tags. A tag is read as the set of the constraints that its parts spell, and so two tags with a
comma between them are read like one after the other, and only the names in a tag matter for what it means.
-/

namespace RecordTables

namespace Constraint

/-- The name of a constraint in tags. -/
def name : Constraint → String
  | .primaryKey => "primarykey"
  | .notNull => "notnull"
  | .unique => "unique"

/-- The name that a text is looked up by. -/
def looked (text : List Char) : String := String.ofList (Text.lower (Text.trim text))

/-- A text that spells a constraint: its name in letters of any case, between blanks. -/
def Spelled (constraint : Constraint) (text : List Char) : Prop :=
  ∃ before letters after, Text.Blank before ∧ Text.Blank after ∧ text = before ++ letters ++ after ∧
    Text.lower letters = constraint.name.toList

/-- Different constraints have different names. -/
theorem name_injective {first second : Constraint} (same : first.name = second.name) :
    first = second := by
  cases first <;> cases second <;> first | rfl | exact absurd same (by decide)

/-- A result is a constraint exactly if it is the one with its name. -/
theorem ok_eq_ok {first second : Constraint} :
    (.ok first : Except UnknownConstraint Constraint) = .ok second ↔ first.name = second.name := by
  rw [Except.ok.injEq]
  exact ⟨congrArg name, name_injective⟩

/-- Names are written in caseless letters without blanks and commas. -/
theorem name_plain (constraint : Constraint) : ∀ character ∈ constraint.name.toList,
    Text.isBlank character = false ∧ character ≠ ',' := by
  cases constraint <;> exact List.all_iff_forall_prop.mp (by decide)

/-- A constraint is read from its name. -/
theorem read_eq_ok {text : List Char} {constraint : Constraint} :
    read text = .ok constraint ↔ looked text = constraint.name := by
  unfold read looked
  dsimp only
  -- The names are compared one after the other, and none of them is another one.
  generalize String.ofList (Text.lower (Text.trim text)) = found
  split
  · subst found
    exact ok_eq_ok
  · split
    · subst found
      exact ok_eq_ok
    · split
      · subst found
        exact ok_eq_ok
      · refine iff_of_false nofun ?_
        cases constraint <;> assumption

/-- A constraint is read from exactly the texts that spell it. -/
theorem looked_eq_name {text : List Char} {constraint : Constraint} :
    looked text = constraint.name ↔ constraint.Spelled text := by
  constructor
  · intro found
    obtain ⟨before, after, blankBefore, blankAfter, split⟩ := Text.exists_trim text
    refine ⟨before, Text.trim text, after, blankBefore, blankAfter, split, ?_⟩
    rw [← found, looked, String.toList_ofList]
  · rintro ⟨before, letters, after, blankBefore, blankAfter, rfl, lowered⟩
    -- A blank among the letters would be one of the name.
    have clear : ∀ character ∈ letters, Text.isBlank character = false := by
      intro character member
      cases blank : Text.isBlank character with
      | false => rfl
      | true =>
        have held := Text.mem_lowerAfter (Text.caseless_blank blank) [] member
        rw [← Text.lower, lowered] at held
        exact blank.symm.trans (constraint.name_plain character held).1
    rw [looked, Text.trim_between blankBefore blankAfter clear, lowered, String.ofList_toList]

/-- What spells a constraint has no comma in it. -/
theorem Spelled.whole {text : List Char} {constraint : Constraint}
    (spelled : constraint.Spelled text) : ',' ∉ text := by
  obtain ⟨before, letters, after, blankBefore, blankAfter, rfl, lowered⟩ := spelled
  have other : Text.isBlank ',' = false := by decide
  intro member
  rcases List.mem_append.mp member with front | behind
  · rcases List.mem_append.mp front with blank | inside
    · cases other.symm.trans (blankBefore ',' blank)
    · -- A comma has no other case, so it would be in the name.
      have held := Text.mem_lowerAfter (by decide : Text.Caseless ',') [] inside
      rw [← Text.lower, lowered] at held
      exact (constraint.name_plain ',' held).2 rfl
  · cases other.symm.trans (blankAfter ',' behind)

end Constraint

namespace Constraints

/-- Whether a constraint is among those of a column. -/
def holds (constraints : Constraints) : Constraint → Bool
  | .primaryKey => constraints.primaryKey
  | .notNull => constraints.notNull
  | .unique => constraints.unique

/-- The constraints that are among the first or the second. -/
def union (first second : Constraints) : Constraints where
  primaryKey := first.primaryKey || second.primaryKey
  notNull := first.notNull || second.notNull
  unique := first.unique || second.unique

/-- Constraints are the same if they hold the same ones. -/
theorem ext_holds {first second : Constraints}
    (same : ∀ constraint, first.holds constraint = second.holds constraint) : first = second := by
  -- Each constraint is one of the three flags, so the flags are compared one by one.
  cases first
  cases second
  congr
  · exact same .primaryKey
  · exact same .notNull
  · exact same .unique

/-- No constraint holds nothing. -/
@[simp] theorem holds_none (constraint : Constraint) : none.holds constraint = false := by
  cases constraint <;> rfl

/-- One more constraint is held beside those before. -/
@[simp] theorem holds_insert (constraints : Constraints) (added constraint : Constraint) :
    (constraints.insert added).holds constraint =
      (constraints.holds constraint || decide (added = constraint)) := by
  cases added <;> cases constraint <;> simp [insert, holds]

/-- A union holds what is held on either side. -/
@[simp] theorem holds_union (first second : Constraints) (constraint : Constraint) :
    (first.union second).holds constraint = (first.holds constraint || second.holds constraint) := by
  cases constraint <;> rfl

/-- Constraints that are added one by one are held beside those before, in whatever order they are added. -/
theorem holds_foldl_insert (added : List Constraint) (constraints : Constraints)
    (constraint : Constraint) :
    (added.foldl insert constraints).holds constraint = true ↔
      constraints.holds constraint = true ∨ constraint ∈ added := by
  -- The constraints vary in the induction, for what is added first is among those before
  -- when the rest is added.
  induction added generalizing constraints with
  | nil => simp
  | cons first rest ih =>
    rw [List.foldl_cons, ih, holds_insert, Bool.or_eq_true, decide_eq_true_eq, List.mem_cons, or_assoc,
      @eq_comm _ first constraint]

/-- Parts one behind the other are read one after the other, up to the first that names nothing. -/
theorem readParts_append (constraints : Constraints) (first second : List (List Char)) :
    readParts constraints (first ++ second) =
      (readParts constraints first).bind fun middle => readParts middle second := by
  -- Reading stops at the first part that names nothing, and then the second list is not
  -- looked at on either side.
  induction first generalizing constraints with
  | nil => rfl
  | cons part rest ih =>
    rw [List.cons_append, readParts, readParts]
    cases Constraint.read part with
    | error fault => rfl
    | ok constraint => exact ih (constraints.insert constraint)

/-- What is read on top of constraints is their union with what is read alone. -/
theorem readParts_eq_map (constraints : Constraints) (parts : List (List Char)) :
    readParts constraints parts = (readParts none parts).map constraints.union := by
  induction parts generalizing constraints with
  | nil =>
    simp only [readParts, Except.map, Except.ok.injEq]
    exact ext_holds (by simp)
  | cons part rest ih =>
    rw [readParts, readParts]
    cases Constraint.read part with
    | error fault => rfl
    | ok constraint =>
      -- Both readings add the constraint before the rest, on top of what they begin with.
      dsimp only
      rw [ih (constraints.insert constraint), ih (none.insert constraint)]
      cases readParts none rest with
      | error fault => rfl
      | ok others =>
        refine congrArg Except.ok (ext_holds fun other => ?_)
        simp [Bool.or_assoc]

/-- Parts are read exactly if each of them names a constraint, as the constraints that they name. -/
theorem readParts_eq_ok {constraints result : Constraints} {parts : List (List Char)} :
    readParts constraints parts = .ok result ↔
      (∀ part ∈ parts, ∃ constraint, Constraint.read part = .ok constraint) ∧
      ∀ constraint, result.holds constraint = true ↔ constraints.holds constraint = true ∨
        ∃ part ∈ parts, Constraint.read part = .ok constraint := by
  induction parts generalizing constraints with
  | nil =>
    rw [readParts, Except.ok.injEq]
    constructor
    · rintro rfl
      simp
    · rintro ⟨_, held⟩
      exact ext_holds fun constraint => Bool.eq_iff_iff.mpr (by simpa using (held constraint).symm)
  | cons part rest ih =>
    rw [readParts, List.forall_mem_cons]
    cases named : Constraint.read part with
    | error fault =>
      -- The reading ends here, and not every part names a constraint.
      exact iff_of_false nofun fun passed => by simp at passed
    | ok first =>
      dsimp only
      rw [ih]
      simp only [holds_insert, Bool.or_eq_true, decide_eq_true_eq, List.mem_cons, or_and_right, exists_or,
        exists_eq_left, named, Except.ok.injEq, or_assoc, exists_eq', true_and]

/-- The parts of a tag between its commas, without the blank ones. -/
def parts (tag : String) : List (List Char) :=
  (Text.splitAt ',' tag.toList).filter fun part => !(Text.trim part).isEmpty

/-- A tag is read part by part. -/
theorem read_eq (tag : String) : read tag = readParts none (parts tag) := rfl

/-- The names in a tag: its parts that are not blank, trimmed and in small letters. -/
def names (tag : String) : List String := (parts tag).map Constraint.looked

/-- Two tags with a comma between them have the parts of both. -/
theorem parts_append (first second : String) :
    parts (first ++ "," ++ second) = parts first ++ parts second := by
  -- The comma between the texts is a place where the whole is split.
  have comma : (first ++ "," ++ second).toList = first.toList ++ ',' :: second.toList := by simp
  rw [parts, comma, Text.splitAt_append, List.filter_append]
  rfl

/-- Two tags with a comma between them have the names of both. -/
theorem names_append (first second : String) :
    names (first ++ "," ++ second) = names first ++ names second := by
  rw [names, parts_append, List.map_append]
  rfl

/-- A tag is read exactly if all names in it are those of constraints, as the constraints with these names. -/
theorem read_eq_ok {tag : String} {constraints : Constraints} :
    read tag = .ok constraints ↔
      (∀ name ∈ names tag, ∃ constraint : Constraint, name = constraint.name) ∧
      ∀ constraint, constraints.holds constraint = true ↔ constraint.name ∈ names tag := by
  rw [read_eq, readParts_eq_ok, names, List.forall_mem_map]
  simp only [Constraint.read_eq_ok, holds_none, Bool.false_eq_true, false_or, List.mem_map]

/-- The names in a tag that spells one constraint. -/
theorem names_spelled {text : String} {constraint : Constraint}
    (spelled : constraint.Spelled text.toList) : names text = [constraint.name] := by
  have named := Constraint.looked_eq_name.mpr spelled
  -- A name is not empty, and so neither is what is left of the text.
  have given : (Text.trim text.toList).isEmpty = false := by
    cases trimmed : Text.trim text.toList with
    | cons first rest => rfl
    | nil =>
      rw [Constraint.looked, trimmed] at named
      exact absurd named (by cases constraint <;> decide)
  rw [names, parts, Text.splitAt_single spelled.whole]
  simp [given, named]

/-- The names in a tag that spells constraints one after the other. -/
theorem names_joinWith {items : List (String × Constraint)}
    (spelled : ∀ item ∈ items, item.2.Spelled item.1.toList) :
    names (Text.joinWith "," (items.map Prod.fst)) = items.map (·.2.name) := by
  -- The induction is on the items, and a last one is apart: no comma stands behind it.
  induction items with
  | nil => rfl
  | cons item rest ih =>
    obtain ⟨first, others⟩ := List.forall_mem_cons.mp spelled
    cases rest with
    | nil => exact names_spelled first
    | cons next rest =>
      have tail := ih others
      rw [List.map_cons] at tail
      rw [List.map_cons, List.map_cons, Text.joinWith, names_append, names_spelled first, tail]
      rfl

/--
Tags compose. Two tags with a comma between them are read like the first and then the second: as the
fault of the first that has one, and otherwise as the union of both. So only the names that a tag holds
matter, and a tag that spells constraints one after the other, in letters of any case and with blanks
around them, holds what they are when they are added one by one, in any order and as often as one likes.
-/
theorem tags_compose :
    (∀ left right : String, read (left ++ "," ++ right) =
      (read left).bind fun first => (read right).bind fun second => .ok (first.union second)) ∧
    (∀ tag other : String, (∀ name, name ∈ names tag ↔ name ∈ names other) →
      ∀ constraints, read tag = .ok constraints → read other = .ok constraints) ∧
    (∀ items : List (String × Constraint), (∀ item ∈ items, item.2.Spelled item.1.toList) →
      ∀ order : List Constraint, (∀ constraint, constraint ∈ order ↔ constraint ∈ items.map Prod.snd) →
        read (Text.joinWith "," (items.map Prod.fst)) = .ok (order.foldl insert none)) := by
  refine ⟨?_, ?_, ?_⟩
  · intro left right
    -- The parts of the second tag are read on top of what the first one holds.
    rw [read_eq, parts_append, readParts_append, ← read_eq]
    congr
    funext first
    rw [readParts_eq_map, ← read_eq]
    cases read right <;> rfl
  · intro tag other same constraints held
    -- What is read of a tag is described by its names, and only by which of them there are.
    rw [read_eq_ok] at held ⊢
    simpa only [same] using held
  · intro items spelled order listed
    rw [read_eq_ok, names_joinWith spelled]
    constructor
    · intro name member
      obtain ⟨item, _, rfl⟩ := List.mem_map.mp member
      exact ⟨item.2, rfl⟩
    · intro constraint
      rw [holds_foldl_insert, holds_none, listed]
      -- A constraint is among others exactly if its name is among theirs.
      constructor
      · rintro (impossible | member)
        · cases impossible
        · obtain ⟨item, inside, rfl⟩ := List.mem_map.mp member
          exact List.mem_map.mpr ⟨item, inside, rfl⟩
      · intro member
        obtain ⟨item, inside, same⟩ := List.mem_map.mp member
        exact .inr (List.mem_map.mpr ⟨item, inside, Constraint.name_injective same⟩)

/-- The tag of a column of codes, with blanks and capitals. -/
def codeTag : String := " Unique ,notnull"

/-- Tags that spell the same, with blanks, repetitions and capitals, and one with a name that is not there. -/
theorem tags_compose_codes :
    read codeTag = .ok ⟨false, true, true⟩ ∧
    read "NOTNULL,, unique,\tUNIQUE" = .ok ⟨false, true, true⟩ ∧
    read (codeTag ++ "," ++ "Indexed, primarykey") = .error ⟨"indexed"⟩ := by
  -- The first tag is read by what it spells, the second because it has the same names, and
  -- the third part by part.
  obtain ⟨joined, settled, spelled⟩ := tags_compose
  have unique : Constraint.unique.Spelled " Unique ".toList :=
    ⟨[' '], "Unique".toList, [' '], by decide, by decide, by decide, by decide⟩
  have notNull : Constraint.notNull.Spelled "notnull".toList :=
    ⟨[], "notnull".toList, [], by decide, by decide, by decide, by decide⟩
  have held : read codeTag = .ok ⟨false, true, true⟩ := by
    refine spelled [(" Unique ", .unique), ("notnull", .notNull)] ?_ [.notNull, .unique] ?_
    · exact List.forall_mem_cons.mpr ⟨unique, List.forall_mem_cons.mpr ⟨notNull, nofun⟩⟩
    -- A constraint is held exactly if it is among those that are spelled.
    · intro constraint
      cases constraint <;> decide
  refine ⟨held, settled codeTag _ ?_ _ held, ?_⟩
  -- Order and repetition make no difference to the names that are there.
  · intro name
    have first : names codeTag = ["unique", "notnull"] := by decide
    have second : names "NOTNULL,, unique,\tUNIQUE" = ["notnull", "unique", "unique"] := by decide
    rw [first, second]
    simp [or_comm]
  · rw [joined, held]
    rfl

end Constraints

end RecordTables
