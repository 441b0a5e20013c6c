import RecordTables.Text.CaseIgnorable
import RecordTables.Text.Cased
import RecordTables.Text.LowercaseRuns

/-! Lower-case text by the rules of Unicode, with the two forms of the small sigma. -/

namespace RecordTables

namespace Text

/-- Whether a code point lies in one of some closed ranges. -/
def inRanges (ranges : List (Nat × Nat)) (point : Nat) : Bool :=
  ranges.any fun range => range.1 ≤ point && point ≤ range.2

/-- Whether the first character that casing rules do not look through has a case. -/
def startsCased (text : List Char) : Bool :=
  match text.dropWhile fun character => inRanges caseIgnorableRanges character.toNat with
  | [] => false
  | character :: _ => inRanges casedRanges character.toNat

/-- The lower-case partner of a character beyond ASCII, or the character itself. -/
def lowerBeyondAscii (character : Char) : Char :=
  let point := character.toNat
  match lowercaseRuns.find? fun run =>
      run.first ≤ point && point ≤ run.last && (point - run.first) % run.step == 0 with
  | some run => Char.ofNat ((point : Int) + run.distance).toNat
  | none => character

/-- The lower-case form of one character; the capital I with a dot keeps its dot as a mark. -/
def lowerCharacter (character : Char) : List Char :=
  if character.toNat < 0x80 then [character.toLower]
  else if character.toNat = 0x130 then ['i', Char.ofNat 0x307]
  else [lowerBeyondAscii character]

/-- The capital sigma. -/
def capitalSigma : Char := Char.ofNat 0x3a3

/-- The small sigma for a place: the final form ends a word and does not begin one. -/
def smallSigma (before after : List Char) : Char :=
  if startsCased before && !startsCased after then Char.ofNat 0x3c2 else Char.ofNat 0x3c3

/-- The lower-case form of a text, given the characters before it from the nearest on. -/
def lowerAfter (before : List Char) : List Char → List Char
  | [] => []
  | character :: rest =>
    -- The capital sigma is the one letter whose small form depends on what stands around it.
    (if character = capitalSigma then [smallSigma before rest] else lowerCharacter character) ++
      lowerAfter (character :: before) rest

/-- The lower-case form of a text. -/
def lower (text : List Char) : List Char := lowerAfter [] text

end Text

end RecordTables
