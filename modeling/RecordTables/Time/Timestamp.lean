import RecordTables.Time.Calendar

/-! Instants to the nanosecond, with room for a leap second at the end of any minute. -/

namespace RecordTables

/--
An instant as whole seconds since 1970 and nanoseconds.
A leap second is the last second of its minute with a second more of nanoseconds.
-/
structure Timestamp where
  seconds : Int
  nanos : Nat
  nanos_lt : nanos < 2000000000
  leap_last : 1000000000 ≤ nanos → seconds % 60 = 59
  deriving DecidableEq

namespace Timestamp

/-- The instant with given seconds and nanoseconds, if there is one. -/
def ofParts? (seconds : Int) (nanos : Nat) : Option Timestamp :=
  if valid : nanos < 2000000000 ∧ (1000000000 ≤ nanos → seconds % 60 = 59) then
    some ⟨seconds, nanos, valid.1, valid.2⟩
  else none

/-- The earlier of two instants comes first. -/
protected def compare (left right : Timestamp) : Ordering :=
  (Ord.compare left.seconds right.seconds).then (Ord.compare left.nanos right.nanos)

/-- The day of the instant, counted from the first day of 1970. -/
def day (timestamp : Timestamp) : Int := timestamp.seconds / 86400

/-- The second of the day. -/
def secondOfDay (timestamp : Timestamp) : Nat := (timestamp.seconds % 86400).toNat

/-- The whole microseconds since the start of the year 2000, what is over being cut toward zero. -/
def microsSince2000 (timestamp : Timestamp) : Int :=
  ((timestamp.seconds - 946684800) * 1000000000 + timestamp.nanos).tdiv 1000

end Timestamp

end RecordTables
