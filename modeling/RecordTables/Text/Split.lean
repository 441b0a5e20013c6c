/-! Text cut at a separating character, and text joined by a separator. -/

namespace RecordTables

namespace Text

/-- The parts between separators; a text without a separator is one part. -/
def splitAt (separator : Char) : List Char → List (List Char)
  | [] => [[]]
  | character :: rest =>
    if character = separator then [] :: splitAt separator rest
    else match splitAt separator rest with
      -- There is always a part, so that this is not reached.
      | [] => [[character]]
      | part :: parts => (character :: part) :: parts

/-- The texts one after the other with a separator between neighbours. -/
def joinWith (separator : String) : List String → String
  | [] => ""
  | [text] => text
  | text :: next :: rest => text ++ separator ++ joinWith separator (next :: rest)

end Text

end RecordTables
