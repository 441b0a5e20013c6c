import RecordTables.Proofs.Dictionary
import RecordTables.Proofs.Json.Stack

/-!
How deep a text that is read can be. The reader keeps no more arrays and objects open than the limit allows,
and a document is no deeper than the text that it is taken from.
-/

namespace RecordTables

namespace Written

/-- Items are as deep as the deepest of them. -/
theorem depthItems_le {items : List Written} {bound : Nat} :
    depthItems items ≤ bound ↔ ∀ item ∈ items, item.depth ≤ bound := by
  induction items with
  | nil => simp [depthItems]
  | cons item rest ih => simp only [depthItems, List.forall_mem_cons, Nat.max_le, ih]

/-- Members are as deep as the deepest of their values. -/
theorem depthMembers_le {members : List (WrittenText × Written)} {bound : Nat} :
    depthMembers members ≤ bound ↔ ∀ member ∈ members, member.2.depth ≤ bound := by
  -- The depth of members is the maximum of those of their values, one member at a time.
  induction members with
  | nil => simp [depthMembers]
  | cons member rest ih =>
    obtain ⟨name, value⟩ := member
    simp only [depthMembers, List.forall_mem_cons, Nat.max_le, ih]

end Written

namespace Json

/-- The values that a frame holds already. -/
def Frame.held : Frame → List Written
  | .array items => items
  | .object members => members.map Prod.snd
  | .member members _ => members.map Prod.snd

/-- Whether open frames are no more than allowed, and hold nothing that is too deep for their place. -/
def Stacked : List Frame → Prop
  | [] => True
  | frame :: outer =>
    outer.length < greatestDepth ∧
      (∀ value ∈ frame.held, outer.length + 1 + value.depth ≤ greatestDepth) ∧ Stacked outer

/-- Whether a text read up to some point is not too deep. -/
def Progress.Bounded (progress : Progress) : Prop :=
  Stacked progress.frames ∧ ∀ whole, progress.expected = .nothing whole → whole.depth ≤ greatestDepth

/-- No more frames are open than allowed. -/
theorem Stacked.length_le {frames : List Frame} (stacked : Stacked frames) :
    frames.length ≤ greatestDepth := by
  -- The innermost frame was opened last, and there was room for it then.
  cases frames with
  | nil => exact Nat.zero_le _
  | cons frame outer => exact stacked.1

/-- Frames that are not too many are bounded as long as nothing is finished. -/
theorem Stacked.bounded {frames : List Frame} {expected : Expectation} (stacked : Stacked frames)
    (unfinished : ∀ whole, expected ≠ .nothing whole) : Progress.Bounded ⟨frames, expected⟩ :=
  ⟨stacked, fun whole same => absurd same (unfinished whole)⟩

/-- The members that would be written are the members with their values written. -/
theorem writtenMembers_eq (members : List (String × Json)) :
    writtenMembers members = members.map fun member => (some member.1, member.2.written) := by
  induction members with
  | nil => rfl
  | cons member rest ih => exact congrArg ((some member.1, member.2.written) :: ·) ih

/-- An object is one deeper than the deepest of the values of its members. -/
theorem depth_object_le {members : List (String × Json)} {bound : Nat}
    (values : ∀ member ∈ members, member.2.depth ≤ bound) : (object members).depth ≤ bound + 1 := by
  -- An object is one deeper than its values, as they are written.
  refine Nat.succ_le_succ (Written.depthMembers_le.mpr ?_)
  rw [writtenMembers_eq, List.forall_mem_map]
  exact values

end Json

namespace Written

mutual

/-- A document is no deeper than the text that it is taken from. -/
theorem depth_document? : ∀ {written : Written} {document : Json}, written.document? = some document →
    document.depth ≤ written.depth
  | .null, _, read => by
    cases read
    exact Nat.le_refl _
  | .boolean _, _, read => by
    cases read
    exact Nat.le_refl _
  | .number _, _, read => by
    obtain ⟨_, _, rfl⟩ := Option.map_eq_some_iff.mp read
    exact Nat.le_refl _
  | .string _, _, read => by
    obtain ⟨_, _, rfl⟩ := Option.map_eq_some_iff.mp read
    exact Nat.le_refl _
  | .array items, _, read => by
    obtain ⟨documents, held, rfl⟩ := Option.map_eq_some_iff.mp read
    exact Nat.succ_le_succ (depth_documents? held)
  | .object members, _, read => by
    -- Sorting leaves out members, but adds none.
    obtain ⟨entries, held, rfl⟩ := Option.map_eq_some_iff.mp read
    exact Json.depth_object_le fun entry member => depth_members? held entry (mem_sortEntries member)

/-- The documents of items are no deeper than the items. -/
theorem depth_documents? : ∀ {items : List Written} {documents : List Json},
    documents? items = some documents → depthItems (Json.writtenItems documents) ≤ depthItems items
  | [], _, read => by
    cases read
    exact Nat.le_refl _
  | item :: rest, _, read => by
    unfold documents? at read
    split at read
    · rename_i document others first found
      cases read
      rw [Json.writtenItems, depthItems, depthItems]
      exact Nat.max_le.mpr ⟨Nat.le_trans (depth_document? first) (Nat.le_max_left ..),
        Nat.le_trans (depth_documents? found) (Nat.le_max_right ..)⟩
    · cases read

/-- The documents of members are no deeper than the deepest of the members. -/
theorem depth_members? : ∀ {members : List (WrittenText × Written)} {entries : List (String × Json)},
    members? members = some entries → ∀ entry ∈ entries, entry.2.depth ≤ depthMembers members
  | [], _, read => by
    cases read
    exact nofun
  | (name, value) :: rest, _, read => by
    unfold members? at read
    split at read
    · rename_i name document others first found
      cases read
      rw [depthMembers]
      refine List.forall_mem_cons.mpr ⟨Nat.le_trans (depth_document? first) (Nat.le_max_left ..), ?_⟩
      intro entry member
      exact Nat.le_trans (depth_members? found entry member) (Nat.le_max_right ..)
    · cases read

end

end Written

end RecordTables
