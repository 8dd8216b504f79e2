import RecordGateway.Text.Blank
import RecordGateway.Text.Digit
import RecordGateway.Time.Instant

/-!
# Timestamps as Clients Write Them

A client gives a timestamp as a date, a `T` or a space, a time of day and a
zone. The grammar is read from left to right, one part after another:

* `YYYY-MM-DD`, a real date of the years 1 to 9999;
* `T` or a space;
* `HH:MM`, and then optionally `:SS`;
* after seconds only, optionally a fraction: a comma and digits, or a point and
  at most six digits, or a point, six digits and any decimal digits after them;
* `Z`, or a sign and `HH:MM` or `HHMM` up to 23:59.

Blanks around it are dropped, and `T` and `Z` may be small. Everything is made
of ASCII digits but the seventh and later digits of a fraction after a point,
which are dropped unread and may be of any script. A time without a zone is
refused, since it names no instant.

The fraction is cut to microseconds and the whole is rounded down to
milliseconds, before 1970 as after.

## Main definitions

* `LocalTime`: what is written before the zone.
* `WrittenTime`: a local time with its offset from UTC.
* `WrittenTime.toInstant`: the instant it names.
* `Instant.parse?`: the instant that a text names, if it names one.
-/

namespace RecordGateway

/-- A date and time of day, as written. -/
structure LocalTime where
  /-- The date. -/
  date : Date
  /-- The hour, from 0 to 23. -/
  hour : Nat
  /-- The minute, from 0 to 59. -/
  minute : Nat
  /-- The second, from 0 to 59. -/
  second : Nat
  /-- The microseconds of the second. -/
  micros : Nat
  deriving DecidableEq, Repr

/-- A local time and the minutes by which it is ahead of UTC. -/
structure WrittenTime where
  /-- The local time. -/
  localTime : LocalTime
  /-- The minutes by which the zone is ahead of UTC, negative when behind. -/
  offset : Int
  deriving DecidableEq, Repr

namespace LocalTime

/-- A real date with a time of day on the clock. -/
def Valid (t : LocalTime) : Prop :=
  t.date.Valid ∧ t.hour ≤ 23 ∧ t.minute ≤ 59 ∧ t.second ≤ 59

instance (t : LocalTime) : Decidable t.Valid := by
  unfold Valid
  infer_instance

/-- Microseconds from the start of 1970 to a local time, read as UTC. -/
def toMicros (t : LocalTime) : Int :=
  (t.date.toDayNumber * 86400 + t.hour * 3600 + t.minute * 60 + t.second) * 1000000 + t.micros

end LocalTime

/-- The instant that a written time names, rounded down to milliseconds. -/
def WrittenTime.toInstant (w : WrittenTime) : Instant :=
  (w.localTime.toMicros - w.offset * 60000000).fdiv 1000

namespace Timestamp

/-- Read a number of exactly `n` ASCII digits. -/
def digits (n : Nat) (cs : List Char) : Option (Nat × List Char) :=
  go n 0 cs
where
  /-- Read `n` more digits after a number. -/
  go : Nat → Nat → List Char → Option (Nat × List Char)
    | 0, value, cs => some (value, cs)
    | _ + 1, _, [] => none
    | n + 1, value, c :: cs => do
      let d ← Text.asciiDigit? c
      go n (value * 10 + d) cs

/-- Read one character out of a list. -/
def oneOf (allowed : List Char) : List Char → Option (Unit × List Char)
  | [] => none
  | c :: cs => if allowed.contains c then some ((), cs) else none

/-- Read a date. -/
def date (cs : List Char) : Option (Date × List Char) := do
  let (year, cs) ← digits 4 cs
  let ((), cs) ← oneOf ['-'] cs
  let (month, cs) ← digits 2 cs
  let ((), cs) ← oneOf ['-'] cs
  let (day, cs) ← digits 2 cs
  return (⟨year, month, day⟩, cs)

/-- The microseconds that the first digits of a fraction stand for: missing
    places count as zero, digits beyond the sixth are dropped. -/
def microsOf (ds : List Char) : Nat :=
  Text.natOfDigits ((ds ++ List.replicate 6 '0').take 6 |>.map (·.toNat - 0x30))

/-- Read a fraction of a second, if there is one. After a point, digits beyond
    the sixth may be of any script. -/
def fraction : List Char → Option (Nat × List Char)
  | ',' :: cs =>
    let ds := cs.takeWhile Text.isAsciiDigit
    if ds.isEmpty then none else some (microsOf ds, cs.dropWhile Text.isAsciiDigit)
  | '.' :: cs =>
    let ds := cs.takeWhile Text.isAsciiDigit
    if ds.isEmpty then none
    else if ds.length < 6 then some (microsOf ds, cs.drop ds.length)
    else some (microsOf ds, (cs.drop 6).dropWhile Text.isDecimalDigit)
  | cs => some (0, cs)

/-- Read seconds and their fraction, if there are any. -/
def seconds : List Char → Option ((Nat × Nat) × List Char)
  | ':' :: cs => do
    let (second, cs) ← digits 2 cs
    let (micros, cs) ← fraction cs
    return ((second, micros), cs)
  | cs => some ((0, 0), cs)

/-- The sign that a character stands for: plus, hyphen or U+2212 MINUS. -/
def sign? (c : Char) : Option Int :=
  if c = '+' then some 1
  else if c = '-' ∨ c.toNat = 0x2212 then some (-1)
  else none

/-- Read the minutes of an offset, with or without a colon before them. -/
def offsetMinutes : List Char → Option (Nat × List Char)
  | ':' :: cs => digits 2 cs
  | cs => digits 2 cs

/-- Read a zone: the minutes ahead of UTC. -/
def zone : List Char → Option (Int × List Char)
  | [] => none
  | c :: cs =>
    if c = 'Z' ∨ c = 'z' then some (0, cs)
    else do
      let s ← sign? c
      let (hours, cs) ← digits 2 cs
      let (minutes, cs) ← offsetMinutes cs
      if hours ≤ 23 ∧ minutes ≤ 59 then
        return (s * (hours * 60 + minutes : Nat), cs)
      else none

/-- Read a whole written time; nothing may follow it, and its fields must lie
    on the calendar and the clock. -/
def written? (cs : List Char) : Option WrittenTime := do
  let (day, cs) ← date cs
  let ((), cs) ← oneOf ['T', 't', ' '] cs
  let (hour, cs) ← digits 2 cs
  let ((), cs) ← oneOf [':'] cs
  let (minute, cs) ← digits 2 cs
  let ((second, micros), cs) ← seconds cs
  let (offset, cs) ← zone cs
  let t : LocalTime := ⟨day, hour, minute, second, micros⟩
  if cs.isEmpty ∧ t.Valid then some ⟨t, offset⟩ else none

end Timestamp

/-- The instant that a text names, blanks around it dropped. -/
def Instant.parse? (s : String) : Option Instant :=
  (Timestamp.written? (Text.trimWhile Text.isBlank s.toList)).map WrittenTime.toInstant

end RecordGateway
