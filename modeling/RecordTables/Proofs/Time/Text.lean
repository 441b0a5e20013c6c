import Mathlib.Algebra.Ring.Nat
import Mathlib.Data.List.TakeWhile
import RecordTables.Proofs.Decimal.Digits
import RecordTables.Proofs.Text
import RecordTables.Proofs.Time.Calendar

/-! Every instant in a year that is kept is read back from its text. -/

namespace RecordTables

namespace Timestamp

/-- No digit is blank. -/
theorem isBlank_digit {digit : Char} (isDigit : isDigit digit = true) : Text.isBlank digit = false := by
  -- Digits lie between the blanks of the ASCII range and all others.
  have bounds : 48 ≤ digit.toNat ∧ digit.toNat ≤ 57 := isDigit_iff.mp isDigit
  simp only [Text.isBlank, Bool.or_eq_false_iff, Bool.and_eq_false_iff, beq_eq_false_iff_ne,
    decide_eq_false_iff_not]
  omega

/-- Digits are read up to the given count, or up to the first character that is none. -/
theorem takeWhile_digits {width : Nat} {digits rest : List Char}
    (all : ∀ digit ∈ digits, isDigit digit = true) (fits : digits.length ≤ width)
    (stops : digits.length < width → ∀ next ∈ rest.head?, isDigit next = false) :
    ((digits ++ rest).take width).takeWhile isDigit = digits := by
  -- What follows the digits is not looked at, or starts with a character that is none.
  have beyond : (rest.take (width - digits.length)).takeWhile isDigit = [] := by
    cases rest with
    | nil => simp
    | cons next others =>
      rcases Nat.lt_or_eq_of_le fits with less | same
      · obtain ⟨count, more⟩ := Nat.exists_eq_succ_of_ne_zero (Nat.sub_ne_zero_of_lt less)
        simp [more, stops less next rfl]
      · simp [same]
  rw [List.take_append, List.take_of_length_le fits, List.takeWhile_append_of_pos all, beyond,
    List.append_nil]

/-- A number is read up to the given count of digits, or up to the first character that is none. -/
theorem readNumber?_digits {width : Nat} {digits rest : List Char} (inhabited : digits ≠ [])
    (all : ∀ digit ∈ digits, isDigit digit = true) (fits : digits.length ≤ width)
    (stops : digits.length < width → ∀ next ∈ rest.head?, isDigit next = false) :
    readNumber? width (digits ++ rest) = some (digitsValue digits, rest) := by
  -- As many digits are taken as the width allows, or as there are.
  have nonempty : digits.isEmpty = false := by simpa using inhabited
  unfold readNumber?
  simp only [takeWhile_digits all fits stops, nonempty, Bool.false_eq_true, if_false, List.drop_left]

/-- A padded number has digits at all. -/
theorem padded_ne_nil (width value : Nat) : padded width value ≠ [] := by
  intro empty
  exact Nat.toDigits_ne_nil (List.append_eq_nil_iff.mp empty).2

/-- No blanks stand in front of a padded number. -/
theorem dropBlanks_padded (width value : Nat) (rest : List Char) :
    Text.dropBlanks (padded width value ++ rest) = padded width value ++ rest := by
  -- A padded number begins with a digit.
  obtain ⟨first, others, text⟩ := List.exists_cons_of_ne_nil (padded_ne_nil width value)
  have digit : isDigit first = true := isDigit_padded (text ▸ List.mem_cons_self)
  rw [text, List.cons_append, Text.dropBlanks_cons (isBlank_digit digit)]

/-- A number of two digits is read back. -/
theorem readPair?_padded {value : Nat} (fits : value < 100) (rest : List Char) :
    readPair? (padded 2 value ++ rest) = some (value, rest) := by
  -- Two digits are all that a pair may have, so that what stands behind makes no difference.
  have length : (padded 2 value).length = 2 := length_padded (by decide) fits
  rw [readPair?, dropBlanks_padded, readNumber?_digits (padded_ne_nil 2 value)
    (fun _ => isDigit_padded) (by omega) (by omega), digitsValue_padded]

/-- A mark that is no blank is passed over. -/
theorem readMark?_cons {mark : Char} (solid : Text.isBlank mark = false) (rest : List Char) :
    readMark? mark (mark :: rest) = some rest := by
  rw [readMark?, Text.dropBlanks_cons solid]
  exact if_pos rfl

/-- A year that starts with a digit has four digits at most. -/
theorem readYear?_padded (value : Nat) (rest : List Char) :
    readYear? (padded 4 value ++ rest) =
      (readNumber? 4 (padded 4 value ++ rest)).map fun (year, after) => ((year : Int), after) := by
  obtain ⟨first, others, text⟩ := List.exists_cons_of_ne_nil (padded_ne_nil 4 value)
  have digit : isDigit first = true := isDigit_padded (text ▸ List.mem_cons_self)
  unfold readYear?
  rw [dropBlanks_padded, text, List.cons_append]
  -- A digit is none of the two signs.
  split
  · rename_i same
    cases same
    cases digit
  · rename_i same
    cases same
    cases digit
  · rfl

/-- Digits behind a sign are read up to the mark that follows. -/
theorem readNumber?_signed (value : Nat) (rest : List Char) :
    readNumber? (padded 4 value ++ '-' :: rest).length (padded 4 value ++ '-' :: rest) =
      some (value, '-' :: rest) := by
  -- Behind a sign there is no width, and the year ends at the dash.
  have stops : ∀ next ∈ ('-' :: rest).head?, isDigit next = false :=
    fun _ same => Option.some.inj same ▸ rfl
  rw [readNumber?_digits (padded_ne_nil 4 value) (fun _ => isDigit_padded) (by simp) fun _ => stops,
    digitsValue_padded]

/-- A year behind a sign is read as the sign has it, with all its digits. -/
theorem readYear?_signed (negative : Bool) (value : Nat) (rest : List Char) :
    readYear? ((if negative then '-' else '+') :: (padded 4 value ++ '-' :: rest)) =
      some (if negative then -(value : Int) else value, '-' :: rest) := by
  -- The mark is taken off, and with either the digits behind it are read to their end.
  cases negative with
  | true =>
    rw [readYear?, if_pos rfl, Text.dropBlanks_cons rfl]
    show (readNumber? _ _).map _ = _
    rw [readNumber?_signed]
    rfl
  | false =>
    rw [readYear?, if_neg Bool.false_ne_true, Text.dropBlanks_cons rfl]
    show (readNumber? _ _).map _ = _
    rw [readNumber?_signed]
    rfl

/-- A year is read back, whether it carries a sign or not. -/
theorem readYear?_yearText (year : Int) (rest : List Char) :
    readYear? (yearText year ++ '-' :: rest) = some (year, '-' :: rest) := by
  unfold yearText
  split
  · -- Four digits are read without looking at what follows them.
    have length : (padded 4 year.toNat).length = 4 := length_padded (by decide) (by omega)
    have same : (year.toNat : Int) = year := by omega
    rw [readYear?_padded, readNumber?_digits (padded_ne_nil 4 year.toNat) (fun _ => isDigit_padded)
      (by omega) (by omega), digitsValue_padded, Option.map_some]
    exact congrArg (fun year => some (year, '-' :: rest)) same
  · -- Any number of digits is read behind a sign, up to the mark in front of the month.
    have read := readYear?_signed (decide (year < 0)) year.natAbs rest
    simp only [decide_eq_true_eq] at read
    have same : (if year < 0 then -(year.natAbs : Int) else year.natAbs) = year := by
      split <;> omega
    rw [List.cons_append, read, same]

/-- A date is read back. -/
theorem readDate?_text {date : Date} (month : date.month < 100) (day : date.day < 100) (rest : List Char) :
    readDate? (yearText date.year ++ '-' :: (padded 2 date.month ++ '-' :: (padded 2 date.day ++ rest))) =
      some (date, rest) := by
  -- Year, month and day are read in turn, with a dash between them.
  have dash : ∀ rest, readMark? '-' ('-' :: rest) = some rest := readMark?_cons rfl
  rw [readDate?, readYear?_yearText]
  simp only [Option.bind_eq_bind, Option.bind_some, dash, readPair?_padded month, readPair?_padded day]
  rfl

/-- A fraction of a second in some of its nine digits is read back, if the others are zero. -/
theorem readFraction?_padded (width : Nat) {nanos : Nat} (positive : 0 < width) (bounded : width ≤ 9)
    (fits : nanos < 10 ^ 9) (divides : 10 ^ (9 - width) ∣ nanos) :
    readFraction? ('.' :: (padded width (nanos / 10 ^ (9 - width)) ++ ['Z'])) = some (nanos, ['Z']) := by
  have length : (padded width (nanos / 10 ^ (9 - width))).length = width := by
    refine length_padded positive (Nat.div_lt_of_lt_mul ?_)
    rw [← Nat.pow_add, Nat.sub_add_cancel bounded]
    exact fits
  have stops : ∀ next ∈ ['Z'].head?, isDigit next = false := fun _ same => Option.some.inj same ▸ rfl
  -- The digits that are left out are as many as the value was divided by.
  have digits := takeWhile_digits (fun _ => isDigit_padded) (length.trans_le bounded) fun _ => stops
  have nonempty : (padded width (nanos / 10 ^ (9 - width))).isEmpty = false := by
    simpa using padded_ne_nil _ _
  have left : (padded width (nanos / 10 ^ (9 - width)) ++ ['Z']).drop width = ['Z'] :=
    List.drop_left' length
  unfold readFraction?
  simp only [digits, nonempty, Bool.false_eq_true, if_false, digitsValue_padded, length,
    Nat.div_mul_cancel divides, left]
  rfl

/-- A written fraction of a second is read back. -/
theorem readFraction?_fractionText {nanos : Nat} (fits : nanos < 1000000000) :
    readFraction? (fractionText nanos ++ ['Z']) = some (nanos, ['Z']) := by
  -- A shorter fraction is written only where what it leaves out is zero.
  unfold fractionText
  split
  · subst nanos
    rfl
  split
  · rename_i millis
    exact readFraction?_padded 3 (by decide) (by decide) fits (Nat.dvd_of_mod_eq_zero millis)
  split
  · rename_i micros
    exact readFraction?_padded 6 (by decide) (by decide) fits (Nat.dvd_of_mod_eq_zero micros)
  · have whole := readFraction?_padded 9 (by decide) (by decide) fits (Nat.one_dvd nanos)
    simpa only [Nat.sub_self, Nat.pow_zero, Nat.div_one, List.cons_append] using whole

/-- The seconds and nanoseconds of a time of day as they are written: a leap second is the sixtieth. -/
theorem readClock?_text {hour minute second nanos : Nat} (hours : hour < 24) (minutes : minute < 60)
    (seconds : second < 60) (fits : nanos < 2000000000) (leap : 1000000000 ≤ nanos → second = 59) :
    readClock? (padded 2 hour ++ ':' :: (padded 2 minute ++ ':' ::
      (padded 2 (second + if 1000000000 ≤ nanos then 1 else 0) ++
        (fractionText (if 1000000000 ≤ nanos then nanos - 1000000000 else nanos) ++ ['Z'])))) =
      some (⟨hour * 60 + minute, second, nanos⟩, ['Z']) := by
  have fraction : (if 1000000000 ≤ nanos then nanos - 1000000000 else nanos) < 1000000000 := by
    split <;> omega
  have pair : (second + if 1000000000 ≤ nanos then 1 else 0) < 100 := by split <;> omega
  have inDay : hour ≤ 23 ∧ minute ≤ 59 ∧ (second + if 1000000000 ≤ nanos then 1 else 0) ≤ 60 := by
    split <;> omega
  have colon : ∀ rest, readMark? ':' (':' :: rest) = some rest := readMark?_cons rfl
  unfold readClock?
  simp only [readPair?_padded (Nat.lt_trans hours (by decide)),
    readPair?_padded (Nat.lt_trans minutes (by decide)), readPair?_padded pair, colon,
    readFraction?_fractionText fraction, Option.bind_eq_bind, Option.bind_some, if_pos inDay]
  -- The sixtieth second stands for the one before it, with a second more of nanoseconds.
  by_cases isLeap : 1000000000 ≤ nanos
  · have last := leap isLeap
    subst second
    have whole : nanos - 1000000000 + 1000000000 = nanos := by omega
    simp [isLeap, whole]
  · have ordinary : second ≠ 60 := by omega
    simp [isLeap, ordinary]

/-- An instant is that of its own date and time of day in UTC. -/
theorem ofLocal?_utc {timestamp : Timestamp} (kept : isKept timestamp.day = true) :
    ofLocal? (Date.ofDayNumber timestamp.day)
      ⟨timestamp.secondOfDay / 3600 * 60 + timestamp.secondOfDay / 60 % 60, timestamp.secondOfDay % 60,
        timestamp.nanos⟩ 0 = some timestamp := by
  -- Hours, minutes and seconds are put together again, without an offset to take away.
  have seconds : (timestamp.day * 1440 +
      ((timestamp.secondOfDay / 3600 * 60 + timestamp.secondOfDay / 60 % 60 : Nat) : Int) - 0) * 60 +
        ((timestamp.secondOfDay % 60 : Nat) : Int) = timestamp.seconds := by
    unfold day secondOfDay
    omega
  -- Neither check refuses them, for the instant was one before.
  have parts : ofParts? timestamp.seconds timestamp.nanos = some timestamp :=
    dif_pos ⟨timestamp.nanos_lt, timestamp.leap_last⟩
  have inKept : isKept (timestamp.seconds / 86400) = true := kept
  unfold ofLocal?
  simp only [Date.dayNumber_ofDayNumber, seconds, Date.isValid_ofDayNumber, kept, inKept, parts]
  rfl

/-- An instant in a year that is kept is read back from its text. -/
theorem read?_text {timestamp : Timestamp} (kept : isKept timestamp.day = true) :
    read? timestamp.text = some timestamp := by
  obtain ⟨month, day⟩ := Date.ofDayNumber_lt timestamp.day
  -- Each number of the clock is in its range, so that its two digits are all there is to read.
  have inDay : timestamp.secondOfDay < 86400 := by
    unfold secondOfDay
    omega
  -- The text is associated to the right, as the readers take it: date, clock, fraction, zone.
  have shape : timestamp.text = yearText (Date.ofDayNumber timestamp.day).year ++ '-' ::
      (padded 2 (Date.ofDayNumber timestamp.day).month ++ '-' ::
        (padded 2 (Date.ofDayNumber timestamp.day).day ++ 'T' ::
          (padded 2 (timestamp.secondOfDay / 3600) ++ ':' ::
            (padded 2 (timestamp.secondOfDay / 60 % 60) ++ ':' ::
              (padded 2 (timestamp.secondOfDay % 60 + if 1000000000 ≤ timestamp.nanos then 1 else 0) ++
                (fractionText (if 1000000000 ≤ timestamp.nanos then timestamp.nanos - 1000000000
                  else timestamp.nanos) ++ ['Z'])))))) := by
    simp only [text, List.append_assoc, List.cons_append]
  -- A leap second is the sixtieth of its minute and has no other place.
  have leap : 1000000000 ≤ timestamp.nanos → timestamp.secondOfDay % 60 = 59 := by
    intro isLeap
    have last := timestamp.leap_last isLeap
    unfold secondOfDay
    omega
  have hours : timestamp.secondOfDay / 3600 < 24 := by omega
  have minutes : timestamp.secondOfDay / 60 % 60 < 60 := by omega
  have seconds : timestamp.secondOfDay % 60 < 60 := by omega
  have clock := readClock?_text hours minutes seconds timestamp.nanos_lt leap
  have zone : readOffset? (Text.dropBlanks ['Z']) = some (0, []) := rfl
  -- Date, clock and zone leave nothing of the text, and together are the instant.
  rw [read?, shape, readDate?_text month day]
  simp only [Option.bind_eq_bind, Option.bind_some, List.head?_cons, List.tail_cons, clock, zone]
  exact ofLocal?_utc kept

/-- An instant that is read lies in a year that is kept. -/
theorem isKept_of_read? {text : List Char} {timestamp : Timestamp} (read : read? text = some timestamp) :
    isKept timestamp.day = true := by
  -- With or without an offset the instant is made of a date, which is checked then.
  have kept : ∀ {date clock offset}, ofLocal? date clock offset = some timestamp →
      isKept timestamp.day = true := by
    intro date clock offset made
    simp only [ofLocal?, Option.ite_none_right_eq_some, Bool.and_eq_true] at made
    obtain ⟨⟨_, inKept⟩, parts⟩ := made
    unfold ofParts? at parts
    split at parts
    · cases parts
      exact inKept
    · cases parts
  unfold read? at read
  simp only [Option.bind_eq_bind, Option.bind_eq_some_iff] at read
  obtain ⟨⟨date, _⟩, _, separator, _, behind⟩ := read
  -- Whatever is not as the reader wants it has no instant, so that one way is left.
  split at behind
  · obtain ⟨⟨clock, _⟩, _, behind⟩ := Option.bind_eq_some_iff.mp behind
    obtain ⟨⟨offset, _⟩, _, behind⟩ := Option.bind_eq_some_iff.mp behind
    split at behind
    · exact kept behind
    · cases behind
  · cases behind

end Timestamp

end RecordTables
