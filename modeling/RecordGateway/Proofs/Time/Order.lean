import Mathlib.Data.Nat.Init
import RecordGateway.Proofs.Time.Calendar

/-!
# Dates in Order

A date that comes before another, by year, then by month, then by day, has the lesser number.

The days of a date's year that have passed fit into that year, so a date of an earlier year lies
before the first of January of a later one. Within a year it is the same with months. What is left
to know of the calendar is that the days before a year, and before a month of a year, never become
fewer.

Since of two dates one comes before the other unless they are the same, numbers tell dates apart,
and the last date of the calendar is the only one with the greatest number.

## Main definitions

* `Date.before`: earlier by year, month and day.
* `Date.last`: the last day of year 9999.

## Theorems

* `Date.toOrdinal_lt_of_before`: an earlier date has the lesser number.
* `Date.before_trichotomy`: of two dates one is earlier, or they are the same.
* `Date.toDayNumber_lt_iff`: numbers and dates have one order.
* `Date.toDayNumber_le_last`, `Date.toDayNumber_eq_last_iff`: the last date of the calendar.
-/

namespace RecordGateway

namespace Date

/-- A date comes before another: in an earlier year, or in an earlier month of the same year, or on
    an earlier day of the same month. -/
def before (d e : Date) : Prop :=
  d.year < e.year ∨
    d.year = e.year ∧ (d.month < e.month ∨ d.month = e.month ∧ d.day < e.day)

theorem daysBeforeYear_le {y z : Nat} (hy : 1 ≤ y) (h : y ≤ z) :
    daysBeforeYear y ≤ daysBeforeYear z := by
  induction z, h using Nat.le_induction with
  | base => exact Nat.le_refl _
  | succ z hyz ih =>
      rw [daysBeforeYear_succ (Nat.le_trans hy hyz)]
      exact Nat.le_trans ih (Nat.le_add_right _ _)

theorem daysBeforeMonth_le {m n : Nat} (hm : 1 ≤ m) (h : m ≤ n) (year : Nat) :
    daysBeforeMonth year m ≤ daysBeforeMonth year n := by
  induction n, h using Nat.le_induction with
  | base => exact Nat.le_refl _
  | succ n hmn ih =>
      rw [daysBeforeMonth_succ (Nat.le_trans hm hmn)]
      exact Nat.le_trans ih (Nat.le_add_right _ _)

/-- After the twelfth month all days of the year have passed. -/
theorem daysBeforeMonth_thirteen (year : Nat) : daysBeforeMonth year 13 = daysInYear year := by
  rw [daysBeforeMonth_eq_sum, ← sum_monthLengths]
  rfl

/-- The days up to and including a date fit into the months up to its own. -/
theorem Valid.day_le {d : Date} (h : d.Valid) :
    daysBeforeMonth d.year d.month + d.day ≤ daysBeforeMonth d.year (d.month + 1) := by
  rcases h with ⟨-, -, hmonth, -, -, hday⟩
  rw [daysBeforeMonth_succ hmonth]
  omega

/-- A date lies within its year. -/
theorem Valid.toOrdinal_lt {d : Date} (h : d.Valid) :
    d.toOrdinal < daysBeforeYear (d.year + 1) := by
  have hpassed := h.day_le
  rcases h with ⟨hyear, -, -, hmonth, hday, -⟩
  have hmonths : daysBeforeMonth d.year (d.month + 1) ≤ daysBeforeMonth d.year 13 :=
    daysBeforeMonth_le (Nat.le_add_left 1 d.month) (Nat.succ_le_succ hmonth) d.year
  rw [daysBeforeMonth_thirteen] at hmonths
  rw [toOrdinal, daysBeforeYear_succ hyear]
  omega

/-- An earlier date has the lesser number. -/
theorem toOrdinal_lt_of_before {d e : Date} (hd : d.Valid) (h : d.before e) :
    d.toOrdinal < e.toOrdinal := by
  rcases h with hyear | ⟨hyear, hmonth | ⟨hmonth, hday⟩⟩
  · have hpassed := hd.toOrdinal_lt
    have hyears := daysBeforeYear_le (Nat.le_add_left 1 d.year) hyear
    have hfirst : daysBeforeYear e.year ≤ e.toOrdinal := by
      rw [toOrdinal, Nat.add_assoc]
      exact Nat.le_add_right _ _
    exact Nat.lt_of_lt_of_le hpassed (Nat.le_trans hyears hfirst)
  · have hpassed := hd.day_le
    have hmonths : daysBeforeMonth d.year (d.month + 1) ≤ daysBeforeMonth d.year e.month :=
      daysBeforeMonth_le (Nat.le_add_left 1 d.month) hmonth d.year
    have hfirst := hd.2.2.2.2.1
    rw [toOrdinal, toOrdinal, ← hyear]
    omega
  · have hfirst := hd.2.2.2.2.1
    rw [toOrdinal, toOrdinal, ← hyear, ← hmonth]
    omega

/-- Of two dates one comes before the other, or they are the same. -/
theorem before_trichotomy (d e : Date) : d.before e ∨ d = e ∨ e.before d := by
  rcases d with ⟨y, m, a⟩
  rcases e with ⟨z, n, b⟩
  simp only [before, mk.injEq]
  omega

/-- Of two dates the one with the lesser number is the earlier one. -/
theorem toDayNumber_lt_iff {d e : Date} (hd : d.Valid) (he : e.Valid) :
    d.toDayNumber < e.toDayNumber ↔ d.before e := by
  unfold toDayNumber
  constructor
  · intro hnumber
    rcases before_trichotomy d e with hbefore | rfl | hafter
    · exact hbefore
    · exact absurd hnumber (Int.lt_irrefl _)
    · have hordinal := toOrdinal_lt_of_before he hafter
      omega
  · intro hbefore
    have hordinal := toOrdinal_lt_of_before hd hbefore
    omega

/-- The last date of the calendar. -/
def last : Date :=
  ⟨lastYear, 12, 31⟩

/-- A date of the calendar is the last or comes before it. -/
theorem Valid.before_last {d : Date} (h : d.Valid) : d = last ∨ d.before last := by
  rcases before_trichotomy d last with hbefore | heq | hafter
  · exact .inr hbefore
  · exact .inl heq
  · -- Nothing comes after it: its year and its month are the greatest, and its day is too.
    have hdays := daysInMonth_le d.year d.month
    simp only [Valid] at h
    simp only [before, last] at hafter
    omega

/-- No date of the calendar has a greater number than the last. -/
theorem toDayNumber_le_last {d : Date} (h : d.Valid) : d.toDayNumber ≤ last.toDayNumber := by
  rcases h.before_last with rfl | hbefore
  · exact Int.le_refl _
  · have hordinal := toOrdinal_lt_of_before h hbefore
    rw [toDayNumber, toDayNumber]
    omega

/-- Only the last date of the calendar has its number. -/
theorem toDayNumber_eq_last_iff {d : Date} (h : d.Valid) :
    d.toDayNumber = last.toDayNumber ↔ d = last := by
  refine ⟨fun hnumber => ?_, fun heq => heq ▸ rfl⟩
  rcases h.before_last with heq | hbefore
  · exact heq
  · have hordinal := toOrdinal_lt_of_before h hbefore
    rw [toDayNumber, toDayNumber] at hnumber
    omega

end Date

end RecordGateway
