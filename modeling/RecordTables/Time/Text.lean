import RecordTables.Time.Timestamp
import RecordTables.Text.Blank
import RecordTables.Decimal.Text

/-! Instants as text: written in UTC with the fewest digits, read with any offset and with loose blanks. -/

namespace RecordTables

namespace Timestamp

/-- A number in at least the given count of digits, zeros coming first. -/
def padded (width value : Nat) : List Char :=
  let digits := Decimal.natText value
  List.replicate (width - digits.length) '0' ++ digits

/-- A year in four digits; a year that is longer or before year zero carries its sign. -/
def yearText (year : Int) : List Char :=
  if 0 ≤ year ∧ year ≤ 9999 then padded 4 year.toNat
  else (if year < 0 then '-' else '+') :: padded 4 year.natAbs

/-- The fraction of a second in no digits, three, six or nine, whichever is the first to be exact. -/
def fractionText (nanos : Nat) : List Char :=
  if nanos = 0 then []
  -- The fewest of three, six and nine digits that are exact.
  else if nanos % 1000000 = 0 then '.' :: padded 3 (nanos / 1000000)
  else if nanos % 1000 = 0 then '.' :: padded 6 (nanos / 1000)
  else '.' :: padded 9 nanos

/-- The instant in UTC; a leap second is the sixtieth. -/
def text (timestamp : Timestamp) : List Char :=
  let date := Date.ofDayNumber timestamp.day
  let second := timestamp.secondOfDay
  let leap := 1000000000 ≤ timestamp.nanos
  yearText date.year ++ '-' :: padded 2 date.month ++ '-' :: padded 2 date.day ++
    'T' :: padded 2 (second / 3600) ++ ':' :: padded 2 (second / 60 % 60) ++
    ':' :: padded 2 (second % 60 + if leap then 1 else 0) ++
    fractionText (if leap then timestamp.nanos - 1000000000 else timestamp.nanos) ++ ['Z']

/-- Whether a character is one of the digits 0 to 9. -/
def isDigit (character : Char) : Bool := '0' ≤ character && character ≤ '9'

/-- The value of a run of digits. -/
def digitsValue (digits : List Char) : Nat :=
  digits.foldl (fun total digit => 10 * total + (digit.toNat - '0'.toNat)) 0

/-- Reads a number of at least one digit and at most the given count. -/
def readNumber? (width : Nat) (text : List Char) : Option (Nat × List Char) :=
  let digits := (text.take width).takeWhile isDigit
  if digits.isEmpty then none else some (digitsValue digits, text.drop digits.length)

/-- Reads one given character after blanks. -/
def readMark? (mark : Char) (text : List Char) : Option (List Char) :=
  match Text.dropBlanks text with
  | first :: rest => if first = mark then some rest else none
  | [] => none

/-- Reads a number of at most two digits after blanks. -/
def readPair? (text : List Char) : Option (Nat × List Char) := readNumber? 2 (Text.dropBlanks text)

/-- Reads a year: four digits at most, or any number of them after a sign. -/
def readYear? (text : List Char) : Option (Int × List Char) :=
  match Text.dropBlanks text with
  | '-' :: rest => (readNumber? rest.length rest).map fun (year, after) => (-(year : Int), after)
  | '+' :: rest => (readNumber? rest.length rest).map fun (year, after) => ((year : Int), after)
  -- Without a sign a year has four digits at most.
  | unsigned => (readNumber? 4 unsigned).map fun (year, after) => ((year : Int), after)

/-- Reads a date. -/
def readDate? (text : List Char) : Option (Date × List Char) := do
  let (year, text) ← readYear? text
  let text ← readMark? '-' text
  let (month, text) ← readPair? text
  let text ← readMark? '-' text
  let (day, text) ← readPair? text
  return (⟨year, month, day⟩, text)

/-- Reads the fraction of a second as nanoseconds; digits after the ninth are passed over. -/
def readFraction? : List Char → Option (Nat × List Char)
  | '.' :: rest => do
    let digits := (rest.take 9).takeWhile isDigit
    if digits.isEmpty then none
    -- More than nine digits are cut off.
    else some (digitsValue digits * 10 ^ (9 - digits.length),
      (rest.drop digits.length).dropWhile isDigit)
  | text => some (0, text)

/-- A time of day: the minute of the day, the second of the minute and the nanoseconds. -/
structure Clock where
  minute : Nat
  second : Nat
  nanos : Nat

/-- Reads a time of day; the sixtieth second is a leap second. -/
def readClock? (text : List Char) : Option (Clock × List Char) := do
  let (hour, text) ← readPair? text
  let text ← readMark? ':' text
  let (minute, text) ← readPair? text
  let text ← readMark? ':' text
  let (second, text) ← readPair? text
  let (nanos, text) ← readFraction? text
  if hour ≤ 23 ∧ minute ≤ 59 ∧ second ≤ 60 then
    -- A second with the number 60 is the last one of the minute, which goes on for another second.
    let clock := if second = 60 then ⟨hour * 60 + minute, 59, nanos + 1000000000⟩
      else ⟨hour * 60 + minute, second, nanos⟩
    return (clock, text)
  else none

/-- Reads the two digits at the start of a text. -/
def readTwo? : List Char → Option (Nat × List Char)
  | tens :: ones :: rest =>
    if isDigit tens && isDigit ones then some (digitsValue [tens, ones], rest) else none
  | _ => none

/-- Reads hours and minutes of an offset. -/
def readHoursMinutes? (text : List Char) : Option (Nat × List Char) := do
  let (hours, text) ← readTwo? text
  let (minutes, text) ← readTwo? (text.dropWhile fun mark => mark == ':' || Text.isBlank mark)
  if minutes ≤ 59 then return (hours * 60 + minutes, text) else none

/-- The name of the zero offset in capitals. -/
def zeroOffsetName : List Char := ['U', 'T', 'C']

/-- Reads an offset from UTC in minutes. -/
def readOffset? (text : List Char) : Option (Int × List Char) :=
  if (text.take 3).map Char.toUpper = zeroOffsetName then some (0, text.drop 3)
  else match text with
  | [] => none
  | sign :: rest =>
    if sign = 'Z' || sign = 'z' then some (0, rest)
    else if sign = '+' then
      (readHoursMinutes? rest).map fun (minutes, after) => ((minutes : Int), after)
    -- The minus sign of mathematics is taken for a hyphen.
    else if sign = '-' || sign = Char.ofNat 0x2212 then
      (readHoursMinutes? rest).map fun (minutes, after) => (-(minutes : Int), after)
    else none

/-- The first and the last year of the dates that are kept. -/
def yearBounds : Int × Int := (-262143, 262142)

/-- Whether a day lies in a year that is kept. -/
def isKept (day : Int) : Bool :=
  let year := (Date.ofDayNumber day).year
  yearBounds.1 ≤ year && year ≤ yearBounds.2

/-- The instant of a local date and time at an offset in minutes. -/
def ofLocal? (date : Date) (clock : Clock) (offset : Int) : Option Timestamp :=
  let seconds := (date.dayNumber * 1440 + clock.minute - offset) * 60 + clock.second
  -- The date must be kept both in local time and in UTC.
  if date.isValid && isKept date.dayNumber && offset.natAbs < 1440 && isKept (seconds / 86400) then
    ofParts? seconds clock.nanos
  else none

/-- Reads an instant; a date, a time and an offset are required. -/
def read? (text : List Char) : Option Timestamp := do
  let (date, text) ← readDate? text
  let separator ← text.head?
  if separator = 'T' || separator = 't' || separator = ' ' then
    let (clock, text) ← readClock? text.tail
    let (offset, text) ← readOffset? (Text.dropBlanks text)
    -- Only blanks may be left over.
    if (Text.dropBlanks text).isEmpty then ofLocal? date clock offset else none
  else none

end Timestamp

end RecordTables
