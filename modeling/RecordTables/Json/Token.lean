import RecordTables.Json.Written
import RecordTables.Json.Number
import RecordTables.Floating.Hex
import RecordTables.Time.Text

/-! The lexical elements of a JSON text. -/

namespace RecordTables

/-- A lexical element of a JSON text. -/
inductive JsonToken where
  | openArray
  | closeArray
  | openObject
  | closeObject
  | comma
  | colon
  | null
  | boolean (value : Bool)
  | number (value : WrittenNumber)
  | string (text : WrittenText)
  deriving DecidableEq

namespace JsonToken

/-- Whether a character may stand between two lexical elements. -/
def isSpace (character : Char) : Bool :=
  character == ' ' || character == '\n' || character == '\t' || character == '\r'

/-- A code unit of a string being read: a character, or half of a surrogate pair. -/
inductive StringUnit where
  | character (value : Char)
  | leading (half : Nat)
  | trailing (half : Nat)

/-- The code unit that a four-digit escape names. -/
def StringUnit.ofCode (code : Nat) : StringUnit :=
  if 0xd800 ≤ code ∧ code < 0xdc00 then .leading (code - 0xd800)
  else if 0xdc00 ≤ code ∧ code < 0xe000 then .trailing (code - 0xdc00)
  else .character (Char.ofNat code)

/-- The text of some code units; the halves of a pair must stand together in order. -/
def joinUnits : List StringUnit → Option (List Char)
  | [] => some []
  | .character value :: rest => (joinUnits rest).map (value :: ·)
  -- Two halves make one character, and neither is one alone.
  | .leading high :: .trailing low :: rest =>
    (joinUnits rest).map (Char.ofNat (0x10000 + high * 0x400 + low) :: ·)
  | .leading _ :: _ => none
  | .trailing _ :: _ => none

/-- The character that an escape of one letter names. -/
def shortEscape? : Char → Option Char
  | '"' => some '"'
  | '\\' => some '\\'
  | '/' => some '/'
  | 'b' => some '\x08'
  | 'f' => some '\x0c'
  | 'n' => some '\n'
  | 'r' => some '\r'
  | 't' => some '\t'
  | _ => none

/-- Reads a string from behind its opening quote to its closing quote. -/
def readUnits? : List Char → Option (List StringUnit × List Char)
  | [] => none
  | '"' :: rest => some ([], rest)
  | '\\' :: 'u' :: first :: second :: third :: fourth :: rest =>
    match Floating.hexNumber? [first, second, third, fourth], readUnits? rest with
    | some code, some (units, after) => some (StringUnit.ofCode code :: units, after)
    | _, _ => none
  | '\\' :: escape :: rest =>
    match shortEscape? escape, readUnits? rest with
    | some value, some (units, after) => some (.character value :: units, after)
    | _, _ => none
  | value :: rest =>
    -- A backslash here starts no known escape, and control characters must be escaped.
    if value = '\\' || value.toNat < 0x20 then none
    else (readUnits? rest).map fun (units, after) => (.character value :: units, after)

/-- Reads a string from behind its opening quote. -/
def readString? (text : List Char) : Option (WrittenText × List Char) :=
  (readUnits? text).map fun (units, after) => ((joinUnits units).map String.ofList, after)

/-- The digits at the start of a text as numbers, and the text behind them. -/
def readDigits (text : List Char) : List Nat × List Char :=
  ((text.takeWhile Timestamp.isDigit).map fun digit => digit.toNat - '0'.toNat,
    text.dropWhile Timestamp.isDigit)

/-- Reads the whole digits of a numeral; a zero stands alone. -/
def readWhole? (text : List Char) : Option (List Nat × List Char) :=
  match readDigits text with
  | ([], _) => none
  -- A zero in front of another digit is refused.
  | (0 :: _ :: _, _) => none
  | (digits, after) => some (digits, after)

/-- Reads the digits behind a point, if there is a point. -/
def readFraction? : List Char → Option (Option (List Nat) × List Char)
  | '.' :: rest =>
    match readDigits rest with
    -- A point without digits is no number.
    | ([], _) => none
    | (digits, after) => some (some digits, after)
  | text => some (none, text)

/-- Reads the digits of an exponent. -/
def readExponentDigits? (negative : Bool) (text : List Char) : Option (Option Int × List Char) :=
  match readDigits text with
  -- A mark without digits is no number.
  | ([], _) => none
  | (digits, after) =>
    let value := Numeral.digitsValue digits
    some (some (if negative then -(value : Int) else (value : Int)), after)

/-- Reads the exponent of a numeral, if there is one. -/
def readExponent? : List Char → Option (Option Int × List Char)
  | [] => some (none, [])
  | mark :: rest =>
    if mark = 'e' || mark = 'E' then
      match rest with
      | '-' :: digits => readExponentDigits? true digits
      | '+' :: digits => readExponentDigits? false digits
      | digits => readExponentDigits? false digits
    -- Whatever is no mark belongs to what follows the numeral.
    else some (none, mark :: rest)

/-- Reads a numeral without its sign. -/
def readNumeral? (negative : Bool) (text : List Char) : Option (Numeral × List Char) := do
  let (whole, text) ← readWhole? text
  let (fraction, text) ← readFraction? text
  let (exponent, text) ← readExponent? text
  return (⟨negative, whole, fraction, exponent⟩, text)

/-- Reads one lexical element that starts with the given character. -/
def readFrom? (first : Char) (rest : List Char) : Option (JsonToken × List Char) :=
  match first, rest with
  | '[', _ => some (.openArray, rest)
  | ']', _ => some (.closeArray, rest)
  | '\x7b', _ => some (.openObject, rest)
  | '\x7d', _ => some (.closeObject, rest)
  | ',', _ => some (.comma, rest)
  | ':', _ => some (.colon, rest)
  -- The three words are read to their end, and nothing is asked of what follows them.
  | 'n', 'u' :: 'l' :: 'l' :: after => some (.null, after)
  | 't', 'r' :: 'u' :: 'e' :: after => some (.boolean true, after)
  | 'f', 'a' :: 'l' :: 's' :: 'e' :: after => some (.boolean false, after)
  | '"', _ => (readString? rest).map fun (text, after) => (.string text, after)
  | '-', _ => (readNumeral? true rest).map fun (numeral, after) => (.number numeral.number?, after)
  -- What is left can only be a number.
  | _, _ =>
    (readNumeral? false (first :: rest)).map fun (numeral, after) => (.number numeral.number?, after)

/-- The lexical elements of a text; the count bounds how many steps are taken. -/
def readAll? : Nat → List Char → Option (List JsonToken)
  | _, [] => some []
  -- There are as many steps as characters, so that this is not reached.
  | 0, _ :: _ => none
  | steps + 1, first :: rest =>
    if isSpace first then readAll? steps rest
    else match readFrom? first rest with
      | none => none
      | some (token, after) => (readAll? steps after).map (token :: ·)

/-- The lexical elements of a text; every step passes at least one character. -/
def tokens? (text : List Char) : Option (List JsonToken) := readAll? text.length text

end JsonToken

end RecordTables
