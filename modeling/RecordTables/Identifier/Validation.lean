import RecordTables.Identifier.Reserved

/-! Which names may stand for a table, a schema or a column. -/

namespace RecordTables

namespace Identifier

/-- Why a name is refused. -/
inductive Fault where
  | empty
  | malformed (name : String)
  | tooLong (name : String)
  | keyword (name : String)
  | reserved (name : String)
  deriving DecidableEq, Repr

/-- The greatest number of bytes in a name. -/
def greatestLength : Nat := 63

/-- What is said about a refused name. -/
def Fault.message : Fault → String
  | .empty => "Identifier cannot be empty"
  | .malformed name => "Identifier '" ++ name ++ "' is invalid. Must start with a lowercase letter " ++
      "and contain only lowercase letters, numbers, and underscores."
  | .tooLong name =>
    "Identifier '" ++ name ++ "' is longer than " ++ toString greatestLength ++ " characters."
  | .keyword name =>
    "Identifier '" ++ name ++ "' is a PostgreSQL reserved keyword and cannot be used."
  | .reserved name => "Column name '" ++ name ++ "' is reserved and cannot be used."

/-- Whether a character is one of the letters a to z. -/
def isSmallLetter (character : Char) : Bool := 'a' ≤ character && character ≤ 'z'

/-- Whether a character may follow the first one of a name. -/
def isNameCharacter (character : Char) : Bool :=
  isSmallLetter character || ('0' ≤ character && character ≤ '9') || character == '_'

/-- Whether a text is a small letter followed by name characters only. -/
def isWellFormed : List Char → Bool
  | [] => false
  | first :: rest => isSmallLetter first && rest.all isNameCharacter

/-- A name in capitals; only its letters a to z change. -/
def capitals (name : String) : String := String.ofList (name.toList.map Char.toUpper)

/-- Accepts a name or says the first thing that is wrong with it. -/
def validate (name : String) (reserved : List String) : Except Fault Unit :=
  if name = "" then .error .empty
  else if !isWellFormed name.toList then .error (.malformed name)
  -- Only ASCII characters are left here, so bytes and characters are the same.
  else if greatestLength < name.utf8ByteSize then .error (.tooLong name)
  else if reservedWords.contains (capitals name) then .error (.keyword name)
  else if reserved.contains name then .error (.reserved name)
  else .ok ()

end Identifier

end RecordTables
