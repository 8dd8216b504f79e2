import Mathlib.Tactic.SplitIfs
import RecordGateway.Record.Reported

/-!
# Instants That Can Be Shown

Which instants have a text. `Instant.rangeError?` tries three bounds one after
another, since each has a message of its own, but the calendar is the narrowest
of them: a day count that is too long for a duration or too large for 32 bits is
also outside the years 1 to 9999. So an instant has a text exactly when it lies
between the first and the last instant of the calendar.

A timestamp that the broker reports needs a text only if it is not negative,
since a negative one counts as not reported. What is left to fail is the far
end: timestamps after the last instant of year 9999.

## Theorems

* `exists_map_eq_ok_iff`, `exists_eq_error_iff`: whether there is an outcome.
* `Instant.rangeError?_eq_none_iff`: no range error means inside the calendar.
* `Instant.render_isOk_iff`: an instant has a text exactly inside the calendar.
* `Reported.timestamp_isOk_iff`: a reported timestamp can be shown unless it is
  after the calendar.
-/

namespace RecordGateway

theorem exists_map_eq_ok_iff {ε α β : Type} {x : Except ε α} {f : α → β} :
    (∃ b, x.map f = .ok b) ↔ ∃ a, x = .ok a := by
  cases x with
  | error e =>
      constructor <;>
        · rintro ⟨_, h⟩
          cases h
  | ok a => exact ⟨fun _ => ⟨a, rfl⟩, fun _ => ⟨f a, rfl⟩⟩

/-- What does not succeed fails. -/
theorem exists_eq_error_iff {ε α : Type} {x : Except ε α} :
    (∃ e, x = .error e) ↔ ¬∃ a, x = .ok a := by
  cases x with
  | error e =>
      refine ⟨fun _ => ?_, fun _ => ⟨e, rfl⟩⟩
      rintro ⟨a, h⟩
      cases h
  | ok a =>
      refine ⟨?_, fun hnot => absurd ⟨a, rfl⟩ hnot⟩
      rintro ⟨e, h⟩
      cases h

namespace Instant

/-- The bounds as numerals, which is what `omega` works with. -/
theorem lt_first_iff (t : Int) : t < first ↔ t < (-62135596800000 : Int) := Iff.rfl

theorem last_lt_iff (t : Int) : last < t ↔ (253402300799999 : Int) < t := Iff.rfl

theorem rangeError?_eq_none_iff (t : Instant) :
    t.rangeError? = none ↔ first ≤ t ∧ t ≤ last := by
  have hdays : t.fdiv perDay = t / 86400000 := Int.fdiv_eq_ediv_of_nonneg t (by decide)
  rw [← Int.not_lt, ← Int.not_lt, lt_first_iff, last_lt_iff]
  simp only [rangeError?, hdays, RangeError.maxDays, lt_first_iff, last_lt_iff]
  constructor
  · intro h
    split_ifs at h
    omega
  · intro h
    -- Inside the calendar the other two bounds hold as well.
    rw [if_neg (by omega), if_neg (by omega), if_neg (by omega)]

theorem render_isOk_iff (t : Instant) :
    (∃ text, t.render = .ok text) ↔ first ≤ t ∧ t ≤ last := by
  rw [← rangeError?_eq_none_iff, render]
  cases t.rangeError? with
  | none => simp only [Except.ok.injEq, exists_eq']
  | some e => simp only [reduceCtorEq, exists_false]

end Instant

namespace Reported

/-- A timestamp that the broker reports can be shown unless it lies after the
    calendar. One before the calendar is negative, and so it is left out. -/
theorem timestamp_isOk_iff (reported : Option Instant) :
    (∃ slot, timestamp reported = .ok slot) ↔ ∀ t, reported = some t → t ≤ Instant.last := by
  cases reported with
  | none => simp only [timestamp, Except.ok.injEq, exists_eq', reduceCtorEq, false_implies,
      implies_true]
  | some t =>
      by_cases hneg : t < 0
      · have hlast : t ≤ Instant.last := Int.le_trans (Int.le_of_lt hneg) (by decide)
        simp only [timestamp, if_pos hneg, Except.ok.injEq, exists_eq', Option.some.injEq,
          forall_eq', hlast]
      · simp only [timestamp, if_neg hneg, Option.some.injEq, forall_eq']
        constructor
        · rintro ⟨slot, hslot⟩
          cases hrender : t.render with
          | ok text => exact ((Instant.render_isOk_iff t).mp ⟨text, hrender⟩).2
          | error e =>
              rw [hrender] at hslot
              cases hslot
        · intro hlast
          have hfirst : Instant.first ≤ t :=
            Int.le_trans (by decide : Instant.first ≤ 0) (Int.not_lt.mp hneg)
          rcases (Instant.render_isOk_iff t).mpr ⟨hfirst, hlast⟩ with ⟨text, htext⟩
          exact ⟨.value text, by rw [htext]; rfl⟩

end Reported

end RecordGateway
