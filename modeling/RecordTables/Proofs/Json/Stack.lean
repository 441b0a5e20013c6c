import RecordTables.Proofs.Json.Writing

/-!
The stack of open arrays and objects. The elements of a document deliver the document as it would be written,
unless too many arrays and objects are open on the way.
-/

namespace RecordTables

namespace Written

mutual

/-- How many arrays and objects are open at once in a JSON text. -/
def depth : Written → Nat
  | .array items => depthItems items + 1
  | .object members => depthMembers members + 1
  | _ => 0

/-- How many arrays and objects are open at once in the items. -/
def depthItems : List Written → Nat
  | [] => 0
  | item :: rest => max item.depth (depthItems rest)

/-- How many arrays and objects are open at once in the values of members. -/
def depthMembers : List (WrittenText × Written) → Nat
  | [] => 0
  | (_, value) :: rest => max value.depth (depthMembers rest)

end

end Written

namespace Json

/-- How many arrays and objects are open at once in the text of a document. -/
def depth (document : Json) : Nat := document.written.depth

/-- Takes in lexical elements one by one. -/
def run? (tokens : List JsonToken) (progress : Progress) : Option Progress := tokens.foldlM step? progress

/-- The first element is taken in before the others. -/
theorem run?_cons (token : JsonToken) (tokens : List JsonToken) (progress : Progress) :
    run? (token :: tokens) progress = (step? progress token).bind (run? tokens) :=
  List.foldlM_cons

/-- One element is one step. -/
theorem run?_singleton (token : JsonToken) (progress : Progress) :
    run? [token] progress = step? progress token := by
  rw [run?_cons]
  exact Option.bind_fun_some _

/-- Elements are taken in behind the ones before them. -/
theorem run?_append (tokens others : List JsonToken) (progress : Progress) :
    run? (tokens ++ others) progress = (run? tokens progress).bind (run? others) :=
  List.foldlM_append

/-- Where an item or the end of an array may come, a document is taken as an item. -/
theorem run?_first (document : Json) (frames : List Frame) :
    run? document.tokens ⟨frames, .valueOrEnd⟩ = run? document.tokens ⟨frames, .value⟩ := by
  -- No document starts with the end of an array.
  match document with
  | .null => rfl
  | .boolean _ => rfl
  | .number _ => rfl
  | .string _ => rfl
  | .array [] => rfl
  | .array (_ :: _) => rfl
  | .object [] => rfl
  | .object (_ :: _) => rfl

/-- Behind its first element an array or an object is open, if there is room for it. -/
theorem run?_open {frames : List Frame} {frame : Frame} {expected : Expectation} {token : JsonToken}
    (opens : begin? frames token = open? frames frame expected) (tokens : List JsonToken) :
    run? (token :: tokens) ⟨frames, .value⟩ =
      if frames.length < greatestDepth then run? tokens ⟨frame :: frames, expected⟩ else none := by
  -- The limit is looked at before the frame is opened.
  rw [run?_cons]
  show (begin? frames token).bind _ = _
  rw [opens, open?]
  split <;> rfl

/-- There is room for one thing after another if there is room for each. -/
theorem bind_of_room {first last both : Prop} [Decidable first] [Decidable last] [Decidable both]
    {taken result : Option Progress} {between : Progress} {next : Progress → Option Progress}
    (before : taken = if first then some between else none)
    (behind : next between = if last then result else none) (same : first ∧ last ↔ both) :
    taken.bind next = if both then result else none := by
  rw [before]
  -- Without room for the first nothing is left to do.
  by_cases room : first
  · have rest : both ↔ last := same.symm.trans (and_iff_right room)
    rw [if_pos room, Option.bind_some, behind]
    exact if_congr rest.symm rfl rfl
  · rw [if_neg room, if_neg fun fits => room (same.mpr fits).1]
    rfl

mutual

/-- The elements of a document deliver it, if there is room on the stack for all that it opens. -/
theorem run?_tokens : ∀ (document : Json) (frames : List Frame), frames.length ≤ greatestDepth →
    run? document.tokens ⟨frames, .value⟩ =
      if frames.length + document.depth ≤ greatestDepth then deliver? document.written frames else none
  | .null, _, room => (run?_singleton ..).trans (if_pos room).symm
  | .boolean _, _, room => (run?_singleton ..).trans (if_pos room).symm
  | .number _, _, room => (run?_singleton ..).trans (if_pos room).symm
  | .string _, _, room => (run?_singleton ..).trans (if_pos room).symm
  | .array [], frames, _ => by
    rw [tokens, run?_open rfl, run?_singleton]
    rfl
  | .array (item :: rest), frames, _ => by
    -- The first item is taken without a comma in front of it.
    have depth : (array (item :: rest)).depth =
      max item.depth (Written.depthItems (writtenItems rest)) + 1 := rfl
    rw [tokens, run?_open rfl, depth]
    by_cases room : frames.length < greatestDepth
    · have first := run?_tokens item (.array [] :: frames) room
      have others := run?_itemsTokens rest [item.written] room
      rw [if_pos room, List.append_assoc, run?_append, run?_first]
      refine bind_of_room first others ?_
      rw [List.length_cons]
      omega
    · rw [if_neg room, if_neg (by omega)]
  | .object [], frames, _ => by
    rw [tokens, run?_open rfl, run?_singleton]
    rfl
  | .object ((name, value) :: rest), frames, _ => by
    have depth : (object ((name, value) :: rest)).depth =
      max value.depth (Written.depthMembers (writtenMembers rest)) + 1 := rfl
    rw [tokens, run?_open rfl, depth]
    by_cases room : frames.length < greatestDepth
    · have first := run?_tokens value (.member [] (some name) :: frames) room
      have others := run?_membersTokens rest [(some name, value.written)] room
      rw [if_pos room, List.append_assoc]
      show run? (value.tokens ++ _) ⟨.member [] (some name) :: frames, .value⟩ = _
      rw [run?_append]
      refine bind_of_room first others ?_
      rw [List.length_cons]
      omega
    · rw [if_neg room, if_neg (by omega)]

/-- The elements of further items and the end behind them deliver the array that the items stand in. -/
theorem run?_itemsTokens : ∀ (items : List Json) {outer : List Frame} (held : List Written),
    outer.length < greatestDepth →
    run? (itemsTokens items ++ [.closeArray]) ⟨.array held :: outer, .separatorOrEnd⟩ =
      if outer.length + 1 + Written.depthItems (writtenItems items) ≤ greatestDepth then
        deliver? (.array (held.reverse ++ writtenItems items)) outer
      else none
  | [], _, held, room => by
    rw [itemsTokens, List.nil_append, run?_singleton, writtenItems, List.append_nil]
    exact (if_pos room).symm
  | item :: rest, outer, held, room => by
    have first := run?_tokens item (.array held :: outer) room
    have others := run?_itemsTokens rest (item.written :: held) room
    -- Behind the comma the item is taken like the first one.
    rw [itemsTokens, List.cons_append, List.append_assoc]
    show run? (item.tokens ++ _) ⟨.array held :: outer, .value⟩ = _
    rw [run?_append]
    rw [List.reverse_cons, List.append_assoc, List.singleton_append] at others
    refine bind_of_room first others ?_
    rw [List.length_cons, writtenItems, Written.depthItems, depth]
    omega

/-- The elements of further members and the end behind them deliver the object that the members stand in. -/
theorem run?_membersTokens : ∀ (members : List (String × Json)) {outer : List Frame}
    (held : List (WrittenText × Written)), outer.length < greatestDepth →
    run? (membersTokens members ++ [.closeObject]) ⟨.object held :: outer, .separatorOrEnd⟩ =
      if outer.length + 1 + Written.depthMembers (writtenMembers members) ≤ greatestDepth then
        deliver? (.object (held.reverse ++ writtenMembers members)) outer
      else none
  | [], _, held, room => by
    rw [membersTokens, List.nil_append, run?_singleton, writtenMembers, List.append_nil]
    exact (if_pos room).symm
  | (name, value) :: rest, outer, held, room => by
    have first := run?_tokens value (.member held (some name) :: outer) room
    have others := run?_membersTokens rest ((some name, value.written) :: held) room
    rw [membersTokens, List.cons_append, List.cons_append, List.cons_append, List.append_assoc]
    show run? (value.tokens ++ _) ⟨.member held (some name) :: outer, .value⟩ = _
    rw [run?_append]
    rw [List.reverse_cons, List.append_assoc, List.singleton_append] at others
    refine bind_of_room first others ?_
    rw [List.length_cons, writtenMembers, Written.depthMembers, depth]
    omega

end

end Json

end RecordTables
