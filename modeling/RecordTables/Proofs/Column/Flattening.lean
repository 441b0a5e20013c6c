import Mathlib.Data.List.Nodup
import Mathlib.Data.Option.Basic
import RecordTables.Proofs.Column.Faults

/-!
A layout flattens into the columns of its fields, in the order in which the fields are declared, however
deep the groups are that hold them. A place in a layout is the list of the positions to go to, from
the outermost group inwards, and declared earlier means at a place that is smaller in the order of lists.
-/

namespace RecordTables

mutual

/-- An entry without groups: a field alone, or what a group holds in the place of the group. -/
def LayoutEntry.inlined : LayoutEntry → Layout
  | .field leaf => [.field leaf]
  | .group _ entries => Layout.inlined entries

/-- The layout with every group replaced in its place by what it holds. -/
def Layout.inlined : List LayoutEntry → Layout
  | [] => []
  | entry :: rest => entry.inlined ++ Layout.inlined rest

end

/-- The field at a place of an entry; a field has no place inside, and a group is no field. -/
def LayoutEntry.leafAt? : List Nat → LayoutEntry → Option Field
  | [], .field leaf => some leaf
  | [], .group _ _ => none
  | _ :: _, .field _ => none
  | position :: place, .group _ entries => entries[position]?.bind (leafAt? place)

/-- The field at a place of a layout. -/
def Layout.leafAt? (layout : Layout) : List Nat → Option Field
  | [] => none
  | position :: place => layout[position]?.bind (LayoutEntry.leafAt? place)

mutual

/-- The fields of an entry with their places in it. -/
def LayoutEntry.placed : LayoutEntry → List (List Nat × Field)
  | .field leaf => [([], leaf)]
  | .group _ entries => Layout.placedFrom 0 entries

/-- The fields of entries with their places, where the first entry stands at a position. -/
def Layout.placedFrom (position : Nat) : List LayoutEntry → List (List Nat × Field)
  | [] => []
  | entry :: rest =>
    (entry.placed.map fun found => (position :: found.1, found.2)) ++
      Layout.placedFrom (position + 1) rest

end

/-- The fields of a layout with their places. -/
def Layout.placed (layout : Layout) : List (List Nat × Field) := Layout.placedFrom 0 layout

namespace Layout

/-- The fields of two layouts one behind the other. -/
theorem leaves_append (entries others : List LayoutEntry) :
    leaves (entries ++ others) = leaves entries ++ leaves others := by
  -- The fields are those of the entries, taken one entry at a time.
  induction entries with
  | nil => rfl
  | cons entry rest ih => rw [List.cons_append, leaves, leaves, ih, List.append_assoc]

mutual

/-- The fields of an entry are those that are left when its groups are inlined. -/
theorem leaves_inlinedEntry : ∀ entry : LayoutEntry, leaves entry.inlined = entry.leaves
  | .field _ => rfl
  | .group _ entries => leaves_inlined entries

/-- Inlining the groups of a layout leaves its fields as they are. -/
theorem leaves_inlined : ∀ layout : List LayoutEntry, leaves (inlined layout) = leaves layout
  | [] => rfl
  | entry :: rest => by
    rw [inlined, leaves_append, leaves_inlinedEntry entry, leaves_inlined rest, leaves]

end

mutual

/-- No group is left of an entry that is inlined. -/
theorem field_of_mem_inlinedEntry : ∀ {entry found : LayoutEntry}, found ∈ entry.inlined →
    ∃ leaf, found = .field leaf
  | .field leaf, _, member => ⟨leaf, List.mem_singleton.mp member⟩
  | .group _ _, _, member => field_of_mem_inlined member

/-- No group is left of a layout that is inlined. -/
theorem field_of_mem_inlined : ∀ {layout : List LayoutEntry} {found : LayoutEntry},
    found ∈ inlined layout → ∃ leaf, found = .field leaf
  | [], _, impossible => absurd impossible List.not_mem_nil
  | _ :: _, _, member => by
    rw [inlined] at member
    rcases List.mem_append.mp member with first | later
    · exact field_of_mem_inlinedEntry first
    · exact field_of_mem_inlined later

end

mutual

/-- The fields with their places are the fields. -/
theorem map_snd_placedEntry : ∀ entry : LayoutEntry, entry.placed.map Prod.snd = entry.leaves
  | .field _ => rfl
  | .group _ entries => map_snd_placedFrom 0 entries

/-- The fields of entries with their places are the fields in their order. -/
theorem map_snd_placedFrom : ∀ (position : Nat) (entries : List LayoutEntry),
    (placedFrom position entries).map Prod.snd = leaves entries
  | _, [] => rfl
  | position, entry :: rest => by
    rw [placedFrom, List.map_append, List.map_map, map_snd_placedFrom (position + 1) rest, leaves,
      ← map_snd_placedEntry entry]
    rfl

end

/-- A place in a group is one in the layout that the group holds. -/
theorem leafAt?_group (name : String) (entries : List LayoutEntry) (place : List Nat) :
    LayoutEntry.leafAt? place (.group name entries) = leafAt? entries place := by
  -- Neither has a field at the empty place.
  cases place <;> rfl

/-- A place in a layout is a position, counted from the first, and a place in the entry there. -/
theorem leafAt?_eq_some {layout : List LayoutEntry} {place : List Nat} {leaf : Field} :
    (∃ offset inner, place = (0 + offset) :: inner ∧
      layout[offset]?.bind (LayoutEntry.leafAt? inner) = some leaf) ↔
        leafAt? layout place = some leaf := by
  -- The place itself says where the entry stands, so there is nothing to search for in the layout.
  cases place with
  | nil => simp [leafAt?]
  | cons position place =>
    constructor
    · rintro ⟨offset, inner, same, found⟩
      rw [Nat.zero_add, List.cons.injEq] at same
      rw [same.1, same.2]
      exact found
    · intro found
      exact ⟨position, place, by rw [Nat.zero_add], found⟩

mutual

/-- An entry has exactly the fields that are found at their places. -/
theorem mem_placedEntry : ∀ {entry : LayoutEntry} {place : List Nat} {leaf : Field},
    (place, leaf) ∈ entry.placed ↔ entry.leafAt? place = some leaf
  | .field held, [], leaf => by simp [LayoutEntry.placed, LayoutEntry.leafAt?, eq_comm]
  | .field held, _ :: _, leaf => by simp [LayoutEntry.placed, LayoutEntry.leafAt?]
  | .group name entries, place, leaf => by
    rw [LayoutEntry.placed, mem_placedFrom, leafAt?_eq_some, leafAt?_group name]

/-- A field of entries is at the position of one of them, counted from the first, and at a place in it. -/
theorem mem_placedFrom : ∀ {position : Nat} {entries : List LayoutEntry} {place : List Nat}
    {leaf : Field}, (place, leaf) ∈ placedFrom position entries ↔
      ∃ offset inner, place = (position + offset) :: inner ∧
        entries[offset]?.bind (LayoutEntry.leafAt? inner) = some leaf
  | _, [], _, _ => by simp [placedFrom]
  | position, entry :: rest, place, leaf => by
    rw [placedFrom, List.mem_append, mem_placedFrom]
    constructor
    · rintro (first | ⟨offset, inner, rfl, found⟩)
      · obtain ⟨⟨inner, _⟩, member, same⟩ := List.mem_map.mp first
        cases same
        exact ⟨0, inner, rfl, mem_placedEntry.mp member⟩
      · exact ⟨offset + 1, inner, by rw [Nat.add_right_comm, Nat.add_assoc], found⟩
    · rintro ⟨offset, inner, rfl, found⟩
      -- The first entry has the position itself, and all others a later one.
      cases offset with
      | zero => exact .inl (List.mem_map.mpr ⟨(inner, leaf), mem_placedEntry.mpr found, rfl⟩)
      | succ offset => exact .inr ⟨offset, inner, by rw [Nat.add_right_comm, Nat.add_assoc], found⟩

end

mutual

/-- The fields of an entry come in the order of their places. -/
theorem pairwise_placedEntry : ∀ entry : LayoutEntry,
    entry.placed.Pairwise fun found later => found.1 < later.1
  | .field _ => List.pairwise_singleton _ _
  | .group _ entries => pairwise_placedFrom 0 entries

/-- The fields of entries come in the order of their places. -/
theorem pairwise_placedFrom : ∀ (position : Nat) (entries : List LayoutEntry),
    (placedFrom position entries).Pairwise fun found later => found.1 < later.1
  | _, [] => List.Pairwise.nil
  | position, entry :: rest => by
    rw [placedFrom, List.pairwise_append]
    refine ⟨?_, pairwise_placedFrom (position + 1) rest, ?_⟩
    · -- Inside one entry the places begin alike.
      refine List.pairwise_map.mpr ((pairwise_placedEntry entry).imp fun before => ?_)
      exact List.cons_lt_cons_iff.mpr (.inr ⟨rfl, before⟩)
    · -- The places in later entries begin with a greater position.
      rintro _ first ⟨place, leaf⟩ later
      obtain ⟨found, _, rfl⟩ := List.mem_map.mp first
      obtain ⟨offset, inner, rfl, _⟩ := mem_placedFrom.mp later
      exact List.cons_lt_cons_iff.mpr (.inl (by omega))

end

/-- A layout has exactly the fields that are found at their places. -/
theorem mem_placed {layout : Layout} {place : List Nat} {leaf : Field} :
    (place, leaf) ∈ placed layout ↔ leafAt? layout place = some leaf :=
  mem_placedFrom.trans leafAt?_eq_some

end Layout

/-- The tag of a field is there and is a valid name. -/
def Field.WellTagged (leaf : Field) : Prop :=
  ∃ tag, leaf.tag = some tag ∧ Identifier.validate tag [] = .ok ()

/-- A failure says what is wrong with the tag of a field: that it is missing, or that it is no valid name. -/
def Field.TagRefused (leaf : Field) (failure : Failure) : Prop :=
  (leaf.tag = none ∧ failure = .missingTag leaf.name) ∨
    ∃ tag fault, leaf.tag = some tag ∧ Identifier.validate tag [] = .error fault ∧
      failure = .invalidIdentifier fault.message

/-- Nothing is wrong with a tag exactly if it is there and a valid name. -/
theorem Field.tagFaults_eq_nil {leaf : Field} : leaf.tagFaults = [] ↔ leaf.WellTagged := by
  -- A tag that is there has at most the fault that its validation finds.
  unfold tagFaults WellTagged Identifier.faults
  cases leaf.tag with
  | none => simp
  | some tag => cases checked : Identifier.validate tag [] <;> simp [checked]

/-- The first thing that is wrong with a tag is all that is. -/
theorem Field.head?_tagFaults {leaf : Field} {failure : Failure} :
    leaf.tagFaults.head? = some failure ↔ leaf.TagRefused failure := by
  -- Without a tag there is no name to validate, so a tag never has two faults.
  unfold tagFaults TagRefused Identifier.faults
  cases leaf.tag with
  | none => simp [eq_comm]
  | some tag =>
    cases checked : Identifier.validate tag [] <;> simp [checked, Failure.ofIdentifier, eq_comm]

/-- Columns that store the same field are the same. -/
theorem Column.toField_injective : Function.Injective toField := by
  -- A field keeps all four parts of its column.
  intro column other same
  cases column
  cases other
  cases same
  rfl

namespace Layout

/-- The fields with their places are the fields of the layout. -/
theorem map_snd_placed (layout : Layout) : (placed layout).map Prod.snd = leaves layout :=
  map_snd_placedFrom 0 layout

/-- The tags of a layout, where nothing is wrong with any of them, are names. -/
theorem map_tag_placed {layout : Layout} (tagged : ∀ found ∈ placed layout, found.2.WellTagged) :
    (placed layout).map (fun found => found.2.tag) =
      ((leaves layout).filterMap (·.tag)).map some := by
  -- No tag is missing, so none is dropped where the missing ones are.
  rw [← map_snd_placed, List.filterMap_map]
  generalize placed layout = entries at tagged ⊢
  induction entries with
  | nil => rfl
  | cons found rest ih =>
    obtain ⟨⟨tag, given, _⟩, others⟩ := List.forall_mem_cons.mp tagged
    have present : (Field.tag ∘ Prod.snd) found = some tag := given
    rw [List.map_cons, ih others, List.filterMap_cons_some present, List.map_cons, given]

/-- A layout has no columns for the first tag that something is wrong with. -/
theorem head?_tagFaults {layout : Layout} {failure : Failure} :
    ((leaves layout).flatMap Field.tagFaults).head? = some failure ↔
      ∃ before found behind, placed layout = before ++ found :: behind ∧
        (∀ earlier ∈ before, earlier.2.WellTagged) ∧ found.2.TagRefused failure := by
  -- The first fault of all is the first of a leaf in front of which no leaf has one.
  rw [← map_snd_placed, List.flatMap_map, List.head?_flatMap, List.findSome?_eq_some_iff]
  simp only [List.head?_eq_none_iff, Field.tagFaults_eq_nil, Field.head?_tagFaults]
  constructor
  · rintro ⟨before, found, behind, split, refused, fine⟩
    exact ⟨before, found, behind, split, fine, refused⟩
  · rintro ⟨before, found, behind, split, fine, refused⟩
    exact ⟨before, found, behind, split, refused, fine⟩

/-- Nothing is wrong with the tags of a layout exactly if nothing is with any of them. -/
theorem tagFaults_eq_nil {layout : Layout} :
    (leaves layout).flatMap Field.tagFaults = [] ↔ ∀ found ∈ placed layout, found.2.WellTagged := by
  rw [← map_snd_placed, List.flatMap_map, List.flatMap_eq_nil_iff]
  simp only [Field.tagFaults_eq_nil]

/-- Of good tags the first that is repeated is the tag of a field behind fields with different ones. -/
theorem head?_repeatedTags {layout : Layout} (tagged : ∀ found ∈ placed layout, found.2.WellTagged)
    {tag : String} :
    (repeatedNames ((leaves layout).filterMap (·.tag))).head? = some tag ↔
      ∃ before found behind, placed layout = before ++ found :: behind ∧
        (before.map fun earlier => earlier.2.tag).Nodup ∧ found.2.tag = some tag ∧
        ∃ earlier ∈ before, earlier.2.tag = some tag := by
  -- With good tags there is one name for each place, so a split of the names is a split of the places.
  have names := map_tag_placed tagged
  rw [head?_repeatedNames]
  constructor
  -- The names are split at the repeated one, and the split is carried over to the places.
  · rintro ⟨before, behind, split, distinct, held⟩
    rw [split, List.map_append, List.map_cons] at names
    obtain ⟨front, others, placedSplit, frontTags, behindTags⟩ := List.map_eq_append_iff.mp names
    obtain ⟨found, rest, rfl, same, _⟩ := List.map_eq_cons_iff.mp behindTags
    refine ⟨front, found, rest, placedSplit, ?_, same, ?_⟩
    · rw [frontTags, List.nodup_map_iff (Option.some_injective _)]
      exact distinct
    · rw [← List.mem_map, frontTags]
      exact List.mem_map_of_mem held
  -- The places are split, and the names in front are different because the tags are and each has one.
  · rintro ⟨before, found, behind, split, distinct, same, repeated⟩
    rw [split, List.map_append, List.map_cons, same] at names
    obtain ⟨front, others, namesSplit, frontTags, behindTags⟩ := List.map_eq_append_iff.mp names.symm
    obtain ⟨name, rest, rfl, named, _⟩ := List.map_eq_cons_iff.mp behindTags
    cases named
    refine ⟨front, rest, namesSplit, ?_, ?_⟩
    · rwa [← frontTags, List.nodup_map_iff (Option.some_injective _)] at distinct
    · rw [← List.mem_map, ← frontTags] at repeated
      exact (List.mem_map_of_injective (Option.some_injective _)).mp repeated

/--
A layout has the columns of its layout without groups. It has columns exactly if every field has a tag
that is a valid name and no two have the same, and then these store the fields of the layout in the
order of their places. Otherwise it is refused for the first tag that is missing or invalid, and if
there is none, for the first tag that an earlier field has already.
-/
theorem columns_as_declared (layout : Layout) :
    layout.columns = (inlined layout).columns ∧
    (∀ entry ∈ inlined layout, ∃ leaf, entry = .field leaf) ∧
    (∀ place leaf, (place, leaf) ∈ placed layout ↔ layout.leafAt? place = some leaf) ∧
    ((placed layout).Pairwise fun found later => found.1 < later.1) ∧
    (∀ columns, layout.columns = .ok columns ↔
      (∀ found ∈ placed layout, found.2.WellTagged) ∧
      ((placed layout).map fun found => found.2.tag).Nodup ∧
      columns.map Column.toField = (placed layout).map Prod.snd) ∧
    ∀ failure, layout.columns = .error failure ↔
      (∃ before found behind, placed layout = before ++ found :: behind ∧
        (∀ earlier ∈ before, earlier.2.WellTagged) ∧ found.2.TagRefused failure) ∨
      ((∀ found ∈ placed layout, found.2.WellTagged) ∧
        ∃ before found behind tag, placed layout = before ++ found :: behind ∧
          (before.map fun earlier => earlier.2.tag).Nodup ∧ found.2.tag = some tag ∧
          (∃ earlier ∈ before, earlier.2.tag = some tag) ∧ failure = .duplicateColumn tag) := by
  have refusal := failure?_columns layout
  unfold columnFaults at refusal
  refine ⟨?_, fun entry => field_of_mem_inlined, fun place leaf => mem_placed,
    pairwise_placedFrom 0 layout, ?_, ?_⟩
  · -- Columns are made of the fields alone, and these are the same.
    unfold columns
    rw [leaves_inlined]
  · intro columns
    constructor
    · intro flattened
      -- A layout with columns has no fault of either kind.
      rw [flattened] at refusal
      obtain ⟨tags, repeated⟩ := List.append_eq_nil_iff.mp (List.head?_eq_none_iff.mp refusal.symm)
      have tagged := tagFaults_eq_nil.mp tags
      refine ⟨tagged, ?_, ?_⟩
      · rw [map_tag_placed tagged, List.nodup_map_iff (Option.some_injective _)]
        exact repeatedNames_eq_nil.mp (List.map_eq_nil_iff.mp repeated)
      · rw [map_toField_columns flattened, map_snd_placed]
    · rintro ⟨tagged, distinct, stored⟩
      rw [map_tag_placed tagged, List.nodup_map_iff (Option.some_injective _)] at distinct
      rw [tagFaults_eq_nil.mpr tagged, repeatedNames_eq_nil.mpr distinct] at refusal
      -- Without a fault there are columns, and they store the same fields.
      cases flattened : layout.columns with
      | error failure => simp [flattened, failure?] at refusal
      | ok made =>
        have same := map_toField_columns flattened
        rw [← map_snd_placed, ← stored] at same
        rw [Column.toField_injective.list_map same]
  · intro failure
    rw [← failure?_eq_some, refusal, List.head?_append, Option.or_eq_some_iff, head?_tagFaults,
      List.head?_eq_none_iff, tagFaults_eq_nil, List.head?_map, Option.map_eq_some_iff]
    refine or_congr Iff.rfl (and_congr_right fun tagged => ?_)
    simp only [head?_repeatedTags tagged]
    constructor
    · rintro ⟨tag, ⟨before, found, behind, split, distinct, same, repeated⟩, rfl⟩
      exact ⟨before, found, behind, tag, split, distinct, same, repeated, rfl⟩
    · rintro ⟨before, found, behind, tag, split, distinct, same, repeated, rfl⟩
      exact ⟨tag, ⟨before, found, behind, split, distinct, same, repeated⟩, rfl⟩

-- A missing tag in a group is said before a repeated one in front of the group.
example : columns [.field ⟨"left", some "side", .text, .none⟩, .field ⟨"right", some "side", .text, .none⟩,
    .group "back" [.field ⟨"cover", none, .text, .none⟩]] = .error (.missingTag "cover") := rfl

end Layout

end RecordTables
