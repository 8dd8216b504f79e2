/-!
# Calendar Dates

Dates of the proleptic Gregorian calendar from year 1 on, and their numbers as
days since 1 January 1970.

A day number is turned into a date by taking off whole periods of 400, 100, 4
and 1 years in turn. The last century of 400 years and the last year of four
are a day longer than the others, so the quotients for centuries and single
years are capped at three. What is left is a day of the year, and the month is
found by walking the month lengths.

## Main definitions

* `Date`: year, month and day.
* `Date.Valid`: the dates of the calendar up to year 9999.
* `Date.toDayNumber`: days since 1 January 1970.
* `Date.ofDayNumber`: the date of a day number.
-/

namespace RecordGateway

/-- A date: year, month from 1 to 12, day from 1. -/
structure Date where
  /-- The year, 1 for the first. -/
  year : Nat
  /-- The month, 1 for January. -/
  month : Nat
  /-- The day of the month, 1 for the first. -/
  day : Nat
  deriving DecidableEq, Repr

/-- A year with 366 days. -/
def isLeapYear (year : Nat) : Bool :=
  year % 4 == 0 && (year % 100 != 0 || year % 400 == 0)

/-- The lengths of the months of a year, January first. -/
def monthLengths (year : Nat) : List Nat :=
  [31, if isLeapYear year then 29 else 28, 31, 30, 31, 30, 31, 31, 30, 31, 30, 31]

namespace Date

/-- The last year that a date may lie in. -/
def lastYear : Nat := 9999

/-- The number of days of a month; none in a month that does not exist. -/
def daysInMonth (year month : Nat) : Nat :=
  if month = 0 then 0 else (monthLengths year).getD (month - 1) 0

/-- A date of the calendar from year 1 to 9999. -/
def Valid (d : Date) : Prop :=
  1 ≤ d.year ∧ d.year ≤ lastYear ∧ 1 ≤ d.month ∧ d.month ≤ 12 ∧
    1 ≤ d.day ∧ d.day ≤ daysInMonth d.year d.month

instance (d : Date) : Decidable d.Valid := by
  unfold Valid
  infer_instance

/-- The number of days before 1 January of a year, counted from year 1. -/
def daysBeforeYear (year : Nat) : Nat :=
  let y := year - 1
  365 * y + y / 4 - y / 100 + y / 400

/-- The number of days of a year before the first of a month. -/
def daysBeforeMonth (year month : Nat) : Nat :=
  ((monthLengths year).take (month - 1)).foldl (· + ·) 0

/-- The number of days from 1 January of year 1 to 1 January 1970. -/
def epochOrdinal : Nat := 719162

/-- The number of days from 1 January of year 1 to a date. -/
def toOrdinal (d : Date) : Nat :=
  daysBeforeYear d.year + daysBeforeMonth d.year d.month + (d.day - 1)

/-- The number of days from 1 January 1970 to a date, negative before it. -/
def toDayNumber (d : Date) : Int :=
  (d.toOrdinal : Int) - epochOrdinal

/-- The year, less one, of an ordinal, and the day of that year from zero. -/
def yearOfOrdinal (n : Nat) : Nat × Nat :=
  let n400 := n / 146097
  let r := n % 146097
  let n100 := min (r / 36524) 3
  let r := r - 36524 * n100
  let n4 := r / 1461
  let r := r % 1461
  let n1 := min (r / 365) 3
  (400 * n400 + 100 * n100 + 4 * n4 + n1, r - 365 * n1)

/-- Walk the month lengths with a day counted from zero: the months passed and
    the day within the month reached. -/
def monthOfDay : List Nat → Nat → Nat × Nat
  | [], day => (0, day)
  | length :: rest, day =>
    if day < length then (0, day)
    else
      let (months, day) := monthOfDay rest (day - length)
      (months + 1, day)

/-- The date a number of days after 1 January of year 1. -/
def ofOrdinal (n : Nat) : Date :=
  let (y, dayOfYear) := yearOfOrdinal n
  let (m, d) := monthOfDay (monthLengths (y + 1)) dayOfYear
  ⟨y + 1, m + 1, d + 1⟩

/-- The date a number of days after 1 January 1970. Dates before year 1 do not
    exist; they are read as the first day of year 1. -/
def ofDayNumber (n : Int) : Date :=
  ofOrdinal (n + epochOrdinal).toNat

end Date

end RecordGateway
