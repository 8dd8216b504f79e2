import Mathlib
import RecordGateway.Time.Date

/-!
# Day Numbers and Dates

Every day from 1 January of year 1 to 31 December 9999 has a valid date, and the number of that
date is the day's.

Taking off whole periods of 400, 100, 4 and 1 years leaves the year and a day within it. The day is
the 366th only where both caps were reached: in the last year of four, and, if that is the last
year of a century, only in the last century of four. These are the leap years, so the day always
lies within the length of its year. The month is found by walking the month lengths, which takes
off one whole month after another and stops before the first that is not whole.

The numbers count the days: 1 January 1970 is day 0, and the number of the next day is one more. So
the number of a valid date is what one counts from there, forwards or backwards.

## Main definitions

* `daysInYear`: the length of a year.
* `next`: the day after a date.

## Theorems

* `monthOfDay_spec`: where the walk over the month lengths stops.
* `yearOfOrdinal_periods`: the whole periods that are taken off.
* `yearOfOrdinal_spec`: the year of an ordinal and the day within that year.
* `ofOrdinal_spec`, `ofDayNumber_spec`: the date of a day is valid, and its number is the day's.
* `toDayNumber_next`: the next day has the next number.
-/

namespace RecordGateway

theorem isLeapYear_iff (year : Nat) :
    isLeapYear year = true ↔ year % 4 = 0 ∧ (year % 100 ≠ 0 ∨ year % 400 = 0) := by
  simp only [isLeapYear, Bool.and_eq_true, Bool.or_eq_true, beq_iff_eq, bne_iff_ne, ne_eq]

namespace Date

/-- The number of days of a year. -/
def daysInYear (year : Nat) : Nat :=
  if isLeapYear year then 366 else 365

theorem sum_monthLengths (year : Nat) : (monthLengths year).sum = daysInYear year := by
  unfold monthLengths daysInYear
  cases isLeapYear year <;> rfl

/-- The days before a month, as the sum that the walk over the lengths takes off. -/
theorem daysBeforeMonth_eq_sum (year month : Nat) :
    daysBeforeMonth year month = ((monthLengths year).take (month - 1)).sum :=
  List.sum_eq_foldl.symm

/-- The walk over the month lengths stops in a month that there is, at a day that this month has,
    and what it took off is the months before. -/
theorem monthOfDay_spec {lengths : List Nat} {day : Nat} (h : day < lengths.sum) :
    (monthOfDay lengths day).1 < lengths.length ∧
      (monthOfDay lengths day).2 < lengths.getD (monthOfDay lengths day).1 0 ∧
      (lengths.take (monthOfDay lengths day).1).sum + (monthOfDay lengths day).2 = day := by
  induction lengths generalizing day with
  | nil => exact absurd h (Nat.not_lt_zero _)
  | cons length rest ih =>
      rw [List.sum_cons] at h
      by_cases hday : day < length
      · simp only [monthOfDay, if_pos hday, List.length_cons, List.getD_cons_zero, List.take_zero,
          List.sum_nil]
        exact ⟨Nat.succ_pos _, hday, Nat.zero_add _⟩
      · rcases ih (show day - length < rest.sum by omega) with ⟨hmonth, hwithin, hsum⟩
        simp only [monthOfDay, if_neg hday, List.length_cons, List.getD_cons_succ,
          List.take_succ_cons, List.sum_cons]
        exact ⟨Nat.succ_lt_succ hmonth, hwithin, by omega⟩

/-- The periods that are taken off an ordinal: `a` of 400 years, `b` of 100, `c` of 4 and `e` single
    years, with `d` days left. A 366th day is left only where both caps were reached: in the last
    year of four, and if that year ends a century, in the last century of four. -/
theorem yearOfOrdinal_periods (n : Nat) :
    ∃ a b c e d, yearOfOrdinal n = (400 * a + 100 * b + 4 * c + e, d) ∧
      n = 146097 * a + 36524 * b + 1461 * c + 365 * e + d ∧ b ≤ 3 ∧ c ≤ 24 ∧ e ≤ 3 ∧ d ≤ 365 ∧
      (d = 365 → e = 3 ∧ (c = 24 → b = 3)) := by
  refine ⟨_, _, _, _, _, rfl, ?_⟩
  have hfour := Nat.mod_add_div n 146097
  have hrest := Nat.mod_lt n (show 146097 > 0 by decide)
  generalize n % 146097 = rest at hfour hrest ⊢
  -- What the centuries leave is shorter than a century, or a day longer after three of them.
  have hcentury : rest - 36524 * min (rest / 36524) 3 ≤ 36524 ∧
      (36524 ≤ rest - 36524 * min (rest / 36524) 3 → min (rest / 36524) 3 = 3) ∧
      36524 * min (rest / 36524) 3 ≤ rest ∧ min (rest / 36524) 3 ≤ 3 := by omega
  generalize min (rest / 36524) 3 = b at hcentury ⊢
  omega

/-- The leap days of whole periods: one in four years, none in a century's last but in the
    fourth. -/
theorem daysBeforeYear_periods {a b c e : Nat} (hb : b ≤ 3) (hc : c ≤ 24) (he : e ≤ 3) :
    daysBeforeYear (400 * a + 100 * b + 4 * c + e + 1) =
      146097 * a + 36524 * b + 1461 * c + 365 * e := by
  have hfours : (400 * a + 100 * b + 4 * c + e) / 4 = 100 * a + 25 * b + c := by omega
  have hcenturies : (400 * a + 100 * b + 4 * c + e) / 100 = 4 * a + b := by omega
  have hquads : (400 * a + 100 * b + 4 * c + e) / 400 = a := by omega
  simp only [daysBeforeYear, Nat.add_sub_cancel, hfours, hcenturies, hquads]
  omega

theorem daysInMonth_le (year month : Nat) : daysInMonth year month ≤ 31 := by
  have hlengths : ∀ length ∈ monthLengths year, length ≤ 31 := by
    unfold monthLengths
    cases isLeapYear year <;> decide
  rw [daysInMonth, List.getD_eq_getElem?_getD]
  split
  · exact Nat.zero_le _
  · cases hmonth : (monthLengths year)[month - 1]? with
    | none => exact Nat.zero_le _
    | some length => exact hlengths _ (List.mem_of_getElem? hmonth)

/-- The year of a date has four places at most, the month and the day have two. -/
theorem Valid.bounds {d : Date} (h : d.Valid) :
    d.year < 10 ^ 4 ∧ d.month < 10 ^ 2 ∧ d.day < 10 ^ 2 := by
  have hdays := daysInMonth_le d.year d.month
  simp only [Valid, lastYear] at h
  omega

/-- The year of an ordinal begins that many days earlier, and the day within the year is one that
    the year has. -/
theorem yearOfOrdinal_spec (n : Nat) :
    daysBeforeYear ((yearOfOrdinal n).1 + 1) + (yearOfOrdinal n).2 = n ∧
      (yearOfOrdinal n).2 < daysInYear ((yearOfOrdinal n).1 + 1) := by
  rcases yearOfOrdinal_periods n with ⟨a, b, c, e, d, hperiods, hn, hb, hc, he, hd, hlong⟩
  rw [hperiods]
  dsimp only
  refine ⟨by rw [daysBeforeYear_periods hb hc he, hn], ?_⟩
  unfold daysInYear
  by_cases hday : d = 365
  · rcases hlong hday with ⟨hfourth, hcentury⟩
    have hleap : isLeapYear (400 * a + 100 * b + 4 * c + e + 1) = true := by
      rw [isLeapYear_iff]
      refine ⟨by omega, ?_⟩
      by_cases hlast : c = 24
      · have hquad := hcentury hlast
        exact Or.inr (by omega)
      · exact Or.inl (by omega)
    rw [if_pos hleap]
    omega
  · split <;> omega

/-- The days of the years 1 to 9999 have valid dates, from which their numbers are found again. -/
theorem ofOrdinal_spec {n : Nat} (h : n < 3652059) :
    (ofOrdinal n).Valid ∧ (ofOrdinal n).toOrdinal = n := by
  have hlast : (yearOfOrdinal n).1 + 1 ≤ lastYear := by
    rcases yearOfOrdinal_periods n with ⟨a, b, c, e, d, hperiods, hn, _⟩
    rw [hperiods, lastYear]
    omega
  rcases yearOfOrdinal_spec n with ⟨hyear, hday⟩
  rw [← sum_monthLengths] at hday
  rcases monthOfDay_spec hday with ⟨hmonth, hwithin, hsum⟩
  have hmonths : (monthLengths ((yearOfOrdinal n).1 + 1)).length = 12 := rfl
  rw [hmonths] at hmonth
  have hdate : ofOrdinal n = ⟨(yearOfOrdinal n).1 + 1,
      (monthOfDay (monthLengths ((yearOfOrdinal n).1 + 1)) (yearOfOrdinal n).2).1 + 1,
      (monthOfDay (monthLengths ((yearOfOrdinal n).1 + 1)) (yearOfOrdinal n).2).2 + 1⟩ := by
    simp only [ofOrdinal]
  rw [hdate]
  clear hdate
  generalize yearOfOrdinal n = year at *
  generalize monthOfDay (monthLengths (year.1 + 1)) year.2 = place at *
  constructor
  · simp only [Valid, daysInMonth, Nat.succ_ne_zero, if_false, Nat.add_sub_cancel]
    omega
  · simp only [toOrdinal, daysBeforeMonth_eq_sum, Nat.add_sub_cancel]
    omega

/-- The same for day numbers, which count from 1970. -/
theorem ofDayNumber_spec {n : Int} (hfirst : -719162 ≤ n) (hlast : n < 2932897) :
    (ofDayNumber n).Valid ∧ (ofDayNumber n).toDayNumber = n := by
  have hrange : (n + epochOrdinal).toNat < 3652059 := by
    unfold epochOrdinal
    omega
  rcases ofOrdinal_spec hrange with ⟨hvalid, hordinal⟩
  refine ⟨hvalid, ?_⟩
  rw [ofDayNumber, toDayNumber, hordinal]
  unfold epochOrdinal
  omega

/-- The day after a date: in the same month, or the first of the next one. -/
def next (d : Date) : Date :=
  if d.day < daysInMonth d.year d.month then { d with day := d.day + 1 }
  else if d.month < 12 then ⟨d.year, d.month + 1, 1⟩
  else ⟨d.year + 1, 1, 1⟩

theorem daysBeforeMonth_succ {month : Nat} (h : 1 ≤ month) (year : Nat) :
    daysBeforeMonth year (month + 1) = daysBeforeMonth year month + daysInMonth year month := by
  rcases Nat.exists_eq_add_of_le' h with ⟨m, rfl⟩
  rw [daysBeforeMonth_eq_sum, daysBeforeMonth_eq_sum, daysInMonth, if_neg (Nat.succ_ne_zero m),
    Nat.add_sub_cancel, Nat.add_sub_cancel, List.take_add_one, List.sum_append,
    List.getD_eq_getElem?_getD]
  cases (monthLengths year)[m]? <;> simp

theorem daysBeforeYear_succ {year : Nat} (h : 1 ≤ year) :
    daysBeforeYear (year + 1) = daysBeforeYear year + daysInYear year := by
  rcases Nat.exists_eq_add_of_le' h with ⟨y, rfl⟩
  have hcenturies : y / 100 ≤ y / 4 := Nat.div_le_div_left (by decide) (by decide)
  have hleap := isLeapYear_iff (y + 1)
  simp only [← Nat.dvd_iff_mod_eq_zero, ne_eq] at hleap
  -- A year that four, a hundred or four hundred divide adds to each of the quotients.
  simp only [daysBeforeYear, daysInYear, Nat.add_sub_cancel, Nat.succ_div, hleap]
  have hhundred : 100 ∣ y + 1 → 4 ∣ y + 1 := Nat.dvd_trans (by decide)
  have hquads : 400 ∣ y + 1 → 100 ∣ y + 1 := Nat.dvd_trans (by decide)
  by_cases hfour : 4 ∣ y + 1
  · by_cases hcentury : 100 ∣ y + 1
    · by_cases hquad : 400 ∣ y + 1
      · simp only [hfour, hcentury, hquad, not_true_eq_false, or_true, and_self, if_true]
        omega
      · simp only [hfour, hcentury, hquad, not_true_eq_false, or_self, and_false, if_true,
          if_false]
        omega
    · simp only [hfour, hcentury, mt hquads hcentury, not_false_eq_true, true_or, and_self,
        if_true, if_false]
      omega
  · have hcentury := mt hhundred hfour
    simp only [hfour, hcentury, mt hquads hcentury, false_and, if_false]
    omega

/-- The number of the next day is one more. -/
theorem toDayNumber_next {d : Date} (h : d.Valid) : d.next.toDayNumber = d.toDayNumber + 1 := by
  rcases h with ⟨hyear, -, hmonth, htwelve, hday, hlast⟩
  have hordinal : d.next.toOrdinal = d.toOrdinal + 1 := by
    unfold next
    by_cases hwithin : d.day < daysInMonth d.year d.month
    · simp only [if_pos hwithin, toOrdinal]
      omega
    · rw [if_neg hwithin]
      have hmonths := daysBeforeMonth_succ hmonth d.year
      by_cases hdecember : d.month < 12
      · simp only [if_pos hdecember, toOrdinal, hmonths]
        omega
      · -- After December all months of the year have passed.
        have htwelfth : d.month = 12 := Nat.le_antisymm htwelve (Nat.not_lt.mp hdecember)
        have hyears := daysBeforeYear_succ hyear
        have hwhole : daysBeforeMonth d.year (d.month + 1) = daysInYear d.year := by
          rw [htwelfth, daysBeforeMonth_eq_sum, ← sum_monthLengths]
          rfl
        have hfirst : daysBeforeMonth (d.year + 1) 1 = 0 := rfl
        simp only [if_neg hdecember, toOrdinal, hyears, hfirst]
        omega
  rw [toDayNumber, toDayNumber, hordinal]
  omega

end Date

end RecordGateway
