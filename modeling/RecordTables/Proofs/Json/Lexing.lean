import RecordTables.Proofs.Json.Scanning

/-!
The lexical elements of a text. Each is read in place, so the elements of two texts, one behind the other,
are those of the first and then those of the second.
-/

namespace RecordTables

namespace JsonToken

/-- An element that starts with a digit is a number. -/
theorem readFrom?_digit {first : Char} (digit : Timestamp.isDigit first = true) (text : List Char) :
    readFrom? first text =
      (readNumeral? false (first :: text)).map fun result => (number result.1.number?, result.2) := by
  -- No other element starts with a digit.
  unfold readFrom?
  split
  case h_12 => rfl
  all_goals cases digit

/-- An element is read in place. -/
theorem readFrom?_local {first : Char} {text after : List Char} {token : JsonToken}
    (read : readFrom? first text = some (token, after)) :
    after.length ≤ text.length ∧
      ∀ {rest}, Apart rest → readFrom? first (text ++ rest) = some (token, after ++ rest) := by
  -- Most elements are given by their characters alone, whatever stands behind them.
  unfold readFrom? at read
  split at read
  case h_10 =>
    -- A string ends with its quote.
    have strings := local_readString?.map string
    exact ⟨strings.shrinks read, strings.stable read⟩
  case h_11 => exact ⟨(local_number true).shrinks read, (local_number true).stable read⟩
  case h_12 =>
    -- A numeral without a sign is read from its first digit on.
    obtain ⟨⟨numeral, behind⟩, found, same⟩ := Option.map_eq_some_iff.mp read
    obtain ⟨digit, shorter⟩ := readNumeral?_starts found
    cases same
    refine ⟨shorter, fun apart => ?_⟩
    rw [readFrom?_digit digit]
    exact (local_number false).stable read apart
  all_goals
    cases read
    exact ⟨by simp <;> omega, fun _ => rfl⟩

/-- It does not matter how many steps are taken, if they are enough. -/
theorem readAll?_of_length_le {steps : Nat} {text : List Char} (enough : text.length ≤ steps) :
    readAll? steps text = tokens? text := by
  -- Every step passes a character at least, so as many steps as characters are enough.
  suffices general : ∀ {steps steps' : Nat} {text : List Char}, text.length ≤ steps →
      text.length ≤ steps' → readAll? steps text = readAll? steps' text from
    general enough (Nat.le_refl _)
  intro steps
  induction steps with
  | zero =>
    intro steps' text enough _
    cases List.length_eq_zero_iff.mp (Nat.le_zero.mp enough)
    unfold readAll?
    rfl
  | succ steps ih =>
    intro steps' text enough enough'
    match text, steps' with
    | [], _ =>
      unfold readAll?
      rfl
    | first :: rest, steps' + 1 =>
      -- What is left is short enough for the steps that are left on either side.
      have left := Nat.le_of_succ_le_succ enough
      have left' := Nat.le_of_succ_le_succ enough'
      unfold readAll?
      cases isSpace first with
      | true => exact ih left left'
      | false =>
        cases read : readFrom? first rest with
        | none => rfl
        | some result =>
          have shorter := (readFrom?_local read).1
          exact congrArg (Option.map _) (ih (Nat.le_trans shorter left) (Nat.le_trans shorter left'))

/-- Blanks stand between elements. -/
theorem tokens?_space {first : Char} (space : isSpace first = true) (rest : List Char) :
    tokens? (first :: rest) = tokens? rest := by
  show readAll? (rest.length + 1) (first :: rest) = _
  rw [readAll?, if_pos space, readAll?_of_length_le (Nat.le_refl _)]

/-- An element comes before those of what it leaves. -/
theorem tokens?_cons {first : Char} {text after : List Char} {token : JsonToken}
    (solid : isSpace first = false) (read : readFrom? first text = some (token, after)) :
    tokens? (first :: text) = (tokens? after).map (token :: ·) := by
  -- What is left is shorter, so that it is read with any number of steps that its length allows.
  show readAll? (text.length + 1) (first :: text) = _
  rw [readAll?, solid, if_neg Bool.false_ne_true, read]
  exact congrArg (Option.map _) (readAll?_of_length_le (readFrom?_local read).1)

/-- A text with elements and without a blank at its start starts with one of them. -/
theorem tokens?_cons_cases {first : Char} {text : List Char} {elements : List JsonToken}
    (solid : isSpace first = false) (read : tokens? (first :: text) = some elements) :
    ∃ token after others, readFrom? first text = some (token, after) ∧ tokens? after = some others ∧
      elements = token :: others := by
  -- The reader has a step for each character of the text, and the first is not spent on a blank.
  cases found : readFrom? first text with
  | none =>
    have step : readAll? (text.length + 1) (first :: text) = some elements := read
    simp [readAll?, solid, found] at step
  | some result =>
    obtain ⟨token, after⟩ := result
    rw [tokens?_cons solid found] at read
    obtain ⟨others, rest, same⟩ := Option.map_eq_some_iff.mp read
    exact ⟨token, after, others, rfl, rest, same.symm⟩

/-- The elements of two texts, one behind the other, are those of the first and then those of the second. -/
theorem tokens?_append {text rest : List Char} {elements : List JsonToken}
    (read : tokens? text = some elements) (apart : Apart rest) :
    tokens? (text ++ rest) = (tokens? rest).map (elements ++ ·) := by
  -- The induction is on the length of the first text, which every element makes shorter.
  induction long : text.length using Nat.strongRecOn generalizing text elements with
  | _ length ih =>
    cases text with
    | nil =>
      cases read
      simp
    | cons first others =>
      have fewer : others.length < length := by simp [← long]
      cases space : isSpace first with
      -- A blank is passed over on both sides.
      | true =>
        rw [tokens?_space space] at read
        rw [List.cons_append, tokens?_space space]
        exact ih others.length fewer read rfl
      | false =>
        obtain ⟨token, after, later, found, left, rfl⟩ := tokens?_cons_cases space read
        -- The first element ends where it did, because what is appended stands apart from it.
        obtain ⟨shorter, stable⟩ := readFrom?_local found
        rw [List.cons_append, tokens?_cons space (stable apart),
          ih after.length (Nat.lt_of_le_of_lt shorter fewer) left rfl, Option.map_map]
        rfl

end JsonToken

end RecordTables
