import RecordGateway.Text.Quoted
import RecordGateway.Time.Date

/-!
# Instants

A record's timestamp is an instant: a whole number of milliseconds since
1 January 1970, 00:00 UTC. This module writes instants as text.

The text is always in UTC, with three places of the second and a final `Z`.
Every field has a fixed width, so the texts of two instants compare as the
instants do. Only instants of the years 1 to 9999 have one. The others fall
into three classes by how far out they are, and each has its own message.

## Main definitions

* `Instant`: milliseconds since the epoch.
* `RangeError`: why an instant has no text.
* `Instant.render`: the text of an instant.
-/

namespace RecordGateway

/-- Milliseconds since 1 January 1970, 00:00 UTC. -/
abbrev Instant := Int

/-- Why an instant cannot be written as a date. -/
inductive RangeError where
  /-- The number of days does not fit in 32 bits. -/
  | dayCountOverflow
  /-- The number of days is beyond the longest duration. -/
  | dayCountLimit (days : Int)
  /-- The date lies outside the years 1 to 9999. -/
  | yearOutOfRange
  deriving DecidableEq, Repr

namespace RangeError

/-- The greatest number of days of a duration, either way. -/
def maxDays : Nat := 999999999

/-- The wording of a range error. -/
def message : RangeError → String
  | .dayCountOverflow => "Python int too large to convert to C int"
  | .dayCountLimit days =>
    "days=" ++ toString days ++ "; must have magnitude <= " ++ toString maxDays
  | .yearOutOfRange => "date value out of range"

end RangeError

/-- A natural number in decimal, padded with zeros to a width. -/
def zeroPadded (width n : Nat) : String :=
  let digits := Nat.toDigits 10 n
  String.ofList (List.replicate (width - digits.length) '0' ++ digits)

namespace Instant

/-- Milliseconds of a day. -/
def perDay : Int := 86400000

/-- The first instant with a text: the start of year 1. -/
def first : Instant := -62135596800000

/-- The last instant with a text: the last millisecond of year 9999. -/
def last : Instant := 253402300799999

/-- The date and the millisecond of the day of an instant. -/
def split (t : Instant) : Int × Nat :=
  (t.fdiv perDay, (t.fmod perDay).toNat)

/-- Why an instant has no text, if it has none. -/
def rangeError? (t : Instant) : Option RangeError :=
  let days := t.fdiv perDay
  if days < -2147483648 ∨ 2147483647 < days then some .dayCountOverflow
  else if RangeError.maxDays < days.natAbs then some (.dayCountLimit days)
  else if t < first ∨ last < t then some .yearOutOfRange
  else none

/-- The text of a date and a millisecond of its day. -/
def civilText (d : Date) (ms : Nat) : String :=
  zeroPadded 4 d.year ++ "-" ++ zeroPadded 2 d.month ++ "-" ++ zeroPadded 2 d.day ++ "T" ++
    zeroPadded 2 (ms / 3600000) ++ ":" ++ zeroPadded 2 (ms / 60000 % 60) ++ ":" ++
    zeroPadded 2 (ms / 1000 % 60) ++ "." ++ zeroPadded 3 (ms % 1000) ++ "Z"

/-- The text of an instant, such as `2024-01-15T10:30:00.000Z`. -/
def render (t : Instant) : Except RangeError String :=
  match rangeError? t with
  | some e => .error e
  | none =>
    let (days, ms) := split t
    .ok (civilText (Date.ofDayNumber days) ms)

end Instant

end RecordGateway
