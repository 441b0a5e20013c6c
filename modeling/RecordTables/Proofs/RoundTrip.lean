import RecordTables.Proofs.BaseFields
import RecordTables.Proofs.Request.Tagged

/-!
Values, requests and base fields go to JSON and come back. The reader keeps a limited number of arrays and
objects open, so what is nested deeper is written and then refused; but nothing that is read is nested deeper.
-/

namespace RecordTables

/--
A way to spell values as documents and to read them from what is written. What can be written comes back,
what is read can be written, and to write it again takes no more depth than the text had, or two levels.
-/
structure Codec (α : Type) where
  toJson : α → Json
  ofWritten? : Written → Option α
  Writable : α → Prop
  back : ∀ {value}, Writable value → ofWritten? (toJson value).written = some value
  writable : ∀ {written value}, ofWritten? written = some value → Writable value
  shallow : ∀ {written value}, ofWritten? written = some value →
    (toJson value).depth ≤ max 2 written.depth

namespace Codec

variable {α : Type} (codec : Codec α)

/-- Reads a value from a JSON text. -/
def read? (text : String) : Option α := (Json.readWritten? text).bind codec.ofWritten?

end Codec

/-- The codec of values. -/
def Value.codec : Codec Value where
  toJson := toJson
  ofWritten? := ofWritten?
  Writable := Writable
  back := ofWritten?_toJson
  writable read := (sound_of_ofWritten? read).writable
  shallow read := Nat.le_trans (sound_of_ofWritten? read).shallow (Nat.le_max_right ..)

/-- The codec of requests. -/
def Request.codec : Codec Request where
  toJson := toJson
  ofWritten? := ofWritten?
  Writable := Writable
  back := ofWritten?_toJson
  writable read := (sound_of_ofWritten? read).writable
  shallow read := (sound_of_ofWritten? read).shallow

/-- The codec of base fields. -/
def BaseFields.codec : Codec BaseFields where
  toJson := toJson
  ofWritten? := ofWritten?
  Writable := Writable
  back := ofWritten?_toJson
  writable read := (sound_of_ofWritten? read).writable
  shallow read := (sound_of_ofWritten? read).shallow

/-- A half. -/
def Double.half : Double := .number false 4602678819172646912 (by decide)

/-- A document with null, a whole number and a float in it. -/
def readings : Json :=
  .object [("limit", .null), ("values", .array [.number (.whole 1 (by decide) (by decide)),
    .number (.real Double.half rfl)])]

end RecordTables
