import RecordTables.Json.Token

/-! Reading a JSON text: lexical elements are delivered into a stack of open arrays and objects. -/

namespace RecordTables

namespace Json

/-- An open array or object; what it holds already is kept last first. -/
inductive Frame where
  | array (items : List Written)
  | object (members : List (WrittenText × Written))
  | member (members : List (WrittenText × Written)) (name : WrittenText)

/-- What may come next in a text. -/
inductive Expectation where
  | value
  | valueOrEnd
  | separatorOrEnd
  | name
  | nameOrEnd
  | colon (name : WrittenText)
  | nothing (whole : Written)

/-- How many arrays and objects may be open at once. -/
def greatestDepth : Nat := 127

/-- A text read up to some point: the open frames and what may come next. -/
structure Progress where
  frames : List Frame
  expected : Expectation

/-- Before the first element of a text one value is expected. -/
def Progress.start : Progress := ⟨[], .value⟩

/-- Puts a finished value into the innermost open frame. -/
def deliver? (value : Written) : List Frame → Option Progress
  -- With no frame open the value is the whole text.
  | [] => some ⟨[], .nothing value⟩
  | .array items :: outer => some ⟨.array (value :: items) :: outer, .separatorOrEnd⟩
  | .member members name :: outer => some ⟨.object ((name, value) :: members) :: outer, .separatorOrEnd⟩
  -- A value without a name has no place in an object.
  | .object _ :: _ => none

/-- Opens an array or an object unless too many are open. -/
def open? (frames : List Frame) (frame : Frame) (expected : Expectation) : Option Progress :=
  if frames.length < greatestDepth then some ⟨frame :: frames, expected⟩ else none

/-- Starts the value that an element begins. -/
def begin? (frames : List Frame) : JsonToken → Option Progress
  | .null => deliver? .null frames
  | .boolean value => deliver? (.boolean value) frames
  | .number value => deliver? (.number value) frames
  | .string text => deliver? (.string text) frames
  | .openArray => open? frames (.array []) .valueOrEnd
  | .openObject => open? frames (.object []) .nameOrEnd
  -- No value begins with a mark of any other kind.
  | _ => none

/-- Closes the innermost frame if the element is the one that ends it. -/
def close? : JsonToken → List Frame → Option Progress
  | .closeArray, .array items :: outer => deliver? (.array items.reverse) outer
  | .closeObject, .object members :: outer => deliver? (.object members.reverse) outer
  | _, _ => none

/-- Goes on behind a comma. -/
def continue? : List Frame → Option Progress
  | .array items :: outer => some ⟨.array items :: outer, .value⟩
  | .object members :: outer => some ⟨.object members :: outer, .name⟩
  | _ => none

/-- Takes up the name of a member. -/
def nameMember? (name : WrittenText) : List Frame → Option Progress
  | .object members :: outer => some ⟨.member members name :: outer, .value⟩
  | _ => none

/-- Takes in one lexical element. -/
def step? (progress : Progress) (token : JsonToken) : Option Progress :=
  match progress.expected, token with
  | .value, _ => begin? progress.frames token
  | .valueOrEnd, .closeArray => close? token progress.frames
  | .valueOrEnd, _ => begin? progress.frames token
  -- A comma promises another item, so no end may follow it.
  | .separatorOrEnd, .comma => continue? progress.frames
  | .separatorOrEnd, _ => close? token progress.frames
  | .name, .string text => some ⟨progress.frames, .colon text⟩
  | .nameOrEnd, .string text => some ⟨progress.frames, .colon text⟩
  | .nameOrEnd, .closeObject => close? token progress.frames
  | .colon name, .colon => nameMember? name progress.frames
  | _, _ => none

/-- The value of a finished text. -/
def finished? (progress : Progress) : Option Written :=
  match progress.expected with
  | .nothing whole => some whole
  | _ => none

/-- Takes a JSON text apart. -/
def readWritten? (text : String) : Option Written :=
  (JsonToken.tokens? text.toList).bind fun tokens =>
    (tokens.foldlM step? Progress.start).bind finished?

/-- Reads a JSON text as a document. -/
def read? (text : String) : Option Json := (readWritten? text).bind Written.document?

end Json

end RecordTables
