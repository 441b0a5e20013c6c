/-! Quoted names: a double quote inside a name is written twice. -/

namespace RecordTables

namespace Identifier

/-- The characters of a name with every double quote doubled. -/
def doubleQuotes : List Char → List Char
  | [] => []
  | character :: rest =>
    if character = '"' then '"' :: '"' :: doubleQuotes rest
    else character :: doubleQuotes rest

/-- A name between double quotes. -/
def quote (name : String) : String :=
  String.ofList ('"' :: doubleQuotes name.toList ++ ['"'])

/-- The rest of a quoted name after its opening quote, and the text that follows it. -/
def scanQuoted? : List Char → Option (List Char × List Char)
  | [] => none
  -- Two quotes are one of the name, and a single one is its end.
  | '"' :: '"' :: rest => (scanQuoted? rest).map fun (name, after) => ('"' :: name, after)
  | '"' :: rest => some ([], rest)
  | character :: rest => (scanQuoted? rest).map fun (name, after) => (character :: name, after)

/-- Reads a quoted name at the start of a text, and gives back the text that follows it. -/
def unquote? : List Char → Option (String × List Char)
  | '"' :: rest => (scanQuoted? rest).map fun (name, after) => (String.ofList name, after)
  | _ => none

end Identifier

end RecordTables
