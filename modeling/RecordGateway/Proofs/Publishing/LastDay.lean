import RecordGateway.Proofs.Publishing.Course
import RecordGateway.Proofs.Record.Restriction
import RecordGateway.Proofs.Time.Canonical
import RecordGateway.Proofs.Time.Order

/-!
# Accepted Timestamps on the Last Day

A client's timestamp is accepted if the date that is written in it lies in the years 1 to 9999. What
is shown later is the instant in UTC, and the two dates are not the same. A time late on the last
day of year 9999, in a zone behind UTC, is written with a date of the calendar and names an instant
after it. Such a timestamp is accepted and can never be shown: not when the broker acknowledges the
record, and not when the record is read.

Which timestamps these are can be read off what is written. A zone is less than a day ahead or
behind, so the date has to be the last one, and the minutes of the day together with those by which
the zone is behind have to fill that day. Seconds and fractions do not matter, since they are less
than a minute. All other timestamps that name an instant from 1970 on can be shown, wherever one is
shown.

## Main definitions

* `Timestamp.Spelling.AfterCalendar`: the timestamps that name an instant after the calendar.

## Theorems

* `Timestamp.Spelling.last_lt_instant_iff`: these are all such timestamps.
* `Publication.acknowledged_iff`: a delivery is acknowledged unless it cannot be shown.
* `Moment.accepted_showable_iff`: an accepted timestamp is shown exactly if it is none of these.
* `Moment.accepted_after_calendar`: one that is accepted and cannot be shown.
-/

namespace RecordGateway

namespace Timestamp

/-- A zone is less than a day ahead of UTC or behind it. -/
theorem Zone.ahead_bounds {z : Zone} (h : z.Valid) : -1440 < z.ahead ∧ z.ahead < 1440 := by
  cases z with
  | utc => exact ⟨by decide, by decide⟩
  | shifted sign hours colon minutes =>
      rcases h with ⟨-, hhours, hminutes⟩
      rw [ahead]
      split
      · omega
      · omega

/-- A fraction is less than a second. -/
theorem Fraction.micros_lt {f : Fraction} (h : f.Valid) : f.micros < 10 ^ 6 := by
  -- Its digits are of ASCII, behind either mark.
  have hdigits : ∀ c ∈ f.digits, Text.isAsciiDigit c = true := by
    cases f with
    | none => exact List.forall_mem_nil _
    | comma digits => exact h.2
    | point digits more => exact h.2.2.1
  have hpositive : 0 < 10 ^ f.digits.length := Nat.pow_pos (by decide)
  rw [micros, Nat.div_lt_iff_lt_mul hpositive, Nat.mul_comm (10 ^ 6)]
  exact Nat.mul_lt_mul_of_pos_right (ofDigitChars_lt hdigits) (by decide)

namespace Spelling

/-- The time is one of the last day of the calendar, and what has passed of that day in UTC is a day
    or more. -/
def AfterCalendar (w : Spelling) : Prop :=
  w.date = Date.last ∧ 1440 ≤ (w.hour * 60 + w.minute : Int) - w.zone.ahead

instance (w : Spelling) : Decidable w.AfterCalendar := by
  unfold AfterCalendar
  infer_instance

/-- What is written after the second is less than a second, and is zero if nothing is. -/
theorem Valid.micros_lt {w : Spelling} (hw : w.Valid) : (secondValue w.second).2 < 10 ^ 6 := by
  cases hsecond : w.second with
  | none => exact Nat.pow_pos (by decide)
  | some value => exact Fraction.micros_lt (hw.fraction value.1 value.2 hsecond)

/-- The timestamps that name an instant after the calendar. -/
theorem last_lt_instant_iff {w : Spelling} (hw : w.Valid) :
    Instant.last < w.instant ↔ w.AfterCalendar := by
  have hnumber : Date.last.toDayNumber = 2932896 := by decide
  have hday := Date.toDayNumber_le_last hw.date
  have hsecond := hw.second_le
  have hmicros := hw.micros_lt
  have hhour := hw.hour
  have hminute := hw.minute
  rcases Zone.ahead_bounds hw.zone with ⟨hbehind, hahead⟩
  rw [AfterCalendar, ← Date.toDayNumber_eq_last_iff hw.date, Instant.last_lt_iff, instant,
    Int.fdiv_eq_ediv_of_nonneg _ (by decide)]
  rw [hnumber] at hday ⊢
  -- The last instant is a millisecond before the end of the last day.
  omega

end Spelling

end Timestamp

namespace Publication

variable {σ : Type}

/-- A delivery is acknowledged unless its timestamp is after the calendar. -/
theorem acknowledged_iff {p : Publication} (hp : p.outcome = none) {m : Metadata} {t : Instant}
    (ht : m.timestamp = some t) (close : Number → Answer σ Unit) (s : σ) :
    (∃ record, ((p.receive (.delivered m) close).run s).1.outcome = some (.stored record)) ↔
      t ≤ Instant.last := by
  rcases receive_yields p (.delivered m) close s with ⟨s', es, hyields, -⟩
  -- The record can be shown exactly if its timestamp is not after the calendar.
  have hstored := storedRecord_isOk_iff p m
  simp only [ht, Option.some.injEq, forall_eq'] at hstored
  rw [hyields.run_eq, ← hstored]
  simp only [after, ending?, hp, Option.none_or]
  cases p.storedRecord m with
  | ok record => simp only [Option.some.injEq, Outcome.stored.injEq, exists_eq', Except.ok.injEq]
  | error e => simp only [reduceCtorEq, exists_false]

end Publication

namespace Moment

/-- A timestamp that is accepted and names an instant from 1970 on can be shown exactly if it does
    not name one after the calendar, that is, if it is not a time of the last day in a zone that is
    behind UTC by what is left of that day. That holds of the text of the instant, of a record that
    the broker has stored with it, which is acknowledged to the writer, and of a consumed record
    that has it, which is shown to the reader. -/
theorem accepted_showable_iff {text : LooseText} {t : Instant}
    (haccepted : parse (some text) = .ok (some t)) (hzero : 0 ≤ t) :
    ∃ w, Spells text w ∧ t = w.instant ∧
      ((∃ shown, t.render = .ok shown) ↔ ¬w.AfterCalendar) ∧
      (∀ (σ : Type) (p : Publication) (m : Metadata) (close : Number → Answer σ Unit) (s : σ),
        p.outcome = none → m.timestamp = some t →
        ((∃ record, ((p.receive (.delivered m) close).run s).1.outcome = some (.stored record)) ↔
          ¬w.AfterCalendar)) ∧
      ∀ (r : ConsumedRecord) (wanted : List FieldName), r.timestamp = some t →
        ConsumedRecord.isWanted wanted .timestamp = true →
        ((∃ shown, r.view wanted = .ok shown) ↔ ¬w.AfterCalendar) := by
  rcases parse_eq_ok_iff.mp haccepted with ⟨w, hw, rfl⟩
  -- Each of the three can be shown up to the last instant, so this is asked of the text once.
  have hlast : w.instant ≤ Instant.last ↔ ¬w.AfterCalendar := by
    rw [← Timestamp.Spelling.last_lt_instant_iff hw.1, Int.not_lt]
  have hfirst : Instant.first ≤ w.instant := Int.le_trans (by decide) hzero
  refine ⟨w, hw, rfl, ?_, fun σ p m close s hp hm => ?_, fun r wanted hr hwanted => ?_⟩
  · rw [Instant.render_isOk_iff, and_iff_right hfirst, hlast]
  · rw [Publication.acknowledged_iff hp hm, hlast]
  · rw [ConsumedRecord.view_isOk_iff, forall_prop_of_true (ConsumedRecord.isWanted_iff.mp hwanted),
      ← hlast]
    simp only [hr, Option.some.injEq, forall_eq']

/-- The last millisecond of the calendar, written a minute behind UTC. -/
theorem accepted_showable_last_millisecond :
    parse (some (.ofString "9999-12-31T23:58:59.999-00:01")) = .ok (some 253402300799999) ∧
    (0 : Instant) ≤ 253402300799999 ∧
    ∃ w, Spells (.ofString "9999-12-31T23:58:59.999-00:01") w ∧ w.instant = 253402300799999 ∧
      ¬w.AfterCalendar := by
  have haccepted : parse (some (.ofString "9999-12-31T23:58:59.999-00:01")) =
      .ok (some 253402300799999) := rfl
  have hzero : (0 : Instant) ≤ 253402300799999 := by decide
  rcases accepted_showable_iff haccepted hzero with ⟨w, hw, ht, hshown, -⟩
  have hrender : Instant.render 253402300799999 = .ok "9999-12-31T23:59:59.999Z" := by
    decide +kernel
  exact ⟨haccepted, hzero, w, hw, ht.symm, hshown.mp ⟨_, hrender⟩⟩

/-- A minute later, the timestamp is still accepted, and its instant has no text. -/
theorem accepted_after_calendar :
    parse (some (.ofString "9999-12-31T23:59:59.999-00:01")) = .ok (some 253402300859999) ∧
    (0 : Instant) ≤ 253402300859999 ∧
    Instant.render 253402300859999 = .error .yearOutOfRange :=
  ⟨rfl, by decide, by decide⟩

end Moment

end RecordGateway
