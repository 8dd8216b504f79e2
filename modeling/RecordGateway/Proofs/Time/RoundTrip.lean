import RecordGateway.Proofs.Text.Digit
import RecordGateway.Proofs.Text.Split
import RecordGateway.Proofs.Time.Acceptance
import RecordGateway.Proofs.Time.Range

/-!
# Texts of Instants Are Read Back

The text that an instant is written as is one that clients may write, and it names that instant.

It is a timestamp in UTC, with a `T`, seconds and three places of a fraction, each field padded to
its width. The fields lie on the calendar and on the clock because they were split off an instant,
and since the fraction has whole milliseconds, nothing is rounded.

## Main definitions

* `Timestamp.civil`: the timestamp of a date and a millisecond of its day.

## Theorems

* `Timestamp.toList_civilText`: the text of a date and time is how that timestamp is written.
* `Timestamp.instant_civil`: the instant that it names.
* `Instant.civilText_of_render`: the date and time that the text of an instant shows.
* `Instant.parse?_render`: the text of an instant names the instant.
-/

namespace RecordGateway

namespace Timestamp

/-- The timestamp of a date and a millisecond of its day, in UTC. -/
def civil (d : Date) (ms : Nat) : Spelling where
  date := d
  separator := 'T'
  hour := ms / 3600000
  minute := ms / 60000 % 60
  second := some (ms / 1000 % 60, .point (places 3 (ms % 1000)) [])
  zone := .utc

theorem valid_civil {d : Date} {ms : Nat} (hd : d.Valid) (hms : ms < 86400000) :
    (civil d ms).Valid := by
  have hlength := length_places 3 (ms % 1000)
  have hfraction : (Fraction.point (places 3 (ms % 1000)) []).Valid :=
    ⟨List.ne_nil_of_length_pos (by omega), by omega, fun c hc => isAsciiDigit_of_mem_places hc,
      List.forall_mem_nil _, fun hne => absurd rfl hne⟩
  refine ⟨hd, .inl rfl, ?_, ?_, ?_, trivial⟩
  · dsimp only [civil]
    omega
  · dsimp only [civil]
    omega
  · rintro s f ⟨⟩
    exact ⟨by omega, hfraction⟩

/-- The text of a date and a millisecond of its day, field by field. -/
theorem toList_civilText {d : Date} {ms : Nat} (hd : d.Valid) (hms : ms < 86400000) :
    (Instant.civilText d ms).toList = (civil d ms).text := by
  rcases hd.bounds with ⟨hyear, hmonth, hday⟩
  have hfour : ∀ n, n < 10 ^ 4 → (zeroPadded 4 n).toList = places 4 n := fun _ => zeroPadded_eq
  have htwo : ∀ n, n < 10 ^ 2 → (zeroPadded 2 n).toList = places 2 n := fun _ => zeroPadded_eq
  have hthree : ∀ n, n < 10 ^ 3 → (zeroPadded 3 n).toList = places 3 n := fun _ => zeroPadded_eq
  simp only [Instant.civilText, String.toList_append, hfour _ hyear, htwo _ hmonth, htwo _ hday,
    htwo (ms / 3600000) (by omega), htwo (ms / 60000 % 60) (by omega),
    htwo (ms / 1000 % 60) (by omega), hthree (ms % 1000) (by omega), List.append_assoc]
  simp only [Spelling.text, civil, dateText, clockText, secondText, Fraction.text, Zone.text,
    List.append_assoc, List.cons_append, List.append_nil]
  rfl

/-- The instant that a date and a millisecond of its day name. -/
theorem instant_civil (d : Date) (ms : Nat) :
    (civil d ms).instant = d.toDayNumber * 86400000 + ms := by
  have hmicros : (Fraction.point (places 3 (ms % 1000)) []).micros = ms % 1000 * 1000 := by
    have hsmall : ms % 1000 < 10 ^ 3 := Nat.mod_lt ms (by decide)
    rw [Fraction.micros, Fraction.digits, ofDigitChars_places hsmall, length_places]
    omega
  -- The fields add up to the instant in microseconds, a whole number of milliseconds.
  have hsum : (d.toDayNumber * 86400 + (ms / 3600000 : Nat) * 3600 + (ms / 60000 % 60 : Nat) * 60 +
      (ms / 1000 % 60 : Nat) - 0 * 60) * 1000000 + (ms % 1000 * 1000 : Nat) =
      (d.toDayNumber * 86400000 + ms) * 1000 := by
    omega
  simp only [Spelling.instant, civil, secondValue, hmicros, Zone.ahead]
  rw [hsum, Int.mul_fdiv_cancel _ (by decide)]

end Timestamp

namespace Instant

theorem isBlank_civilText {d : Date} {ms : Nat} (hd : d.Valid) (hms : ms < 86400000) :
    ∀ c ∈ (civilText d ms).toList, Text.isBlank c = false := by
  have hplaces : ∀ w n, ∀ c ∈ places w n, Text.isBlank c = false := fun _ _ _ hc =>
    Text.isBlank_of_isAsciiDigit (isAsciiDigit_of_mem_places hc)
  rw [Timestamp.toList_civilText hd hms]
  simp only [Timestamp.Spelling.text, Timestamp.civil, Timestamp.dateText, Timestamp.clockText,
    Timestamp.secondText, Timestamp.Fraction.text, Timestamp.Zone.text, List.append_nil,
    List.forall_mem_append, List.forall_mem_cons]
  exact ⟨⟨hplaces _ _, rfl, hplaces _ _, rfl, hplaces _ _⟩, rfl,
    ⟨hplaces _ _, rfl, hplaces _ _, rfl, hplaces _ _, rfl, hplaces _ _⟩, rfl,
    List.forall_mem_nil _⟩

theorem split_eq (t : Int) : split t = (t / 86400000, (t % 86400000).toNat) :=
  congrArg₂ (fun days ms => (days, Int.toNat ms)) (Int.fdiv_eq_ediv_of_nonneg t (by decide))
    (Int.fmod_eq_emod_of_nonneg t (by decide))

/-- What an instant with a text is split into is a date of the calendar and a millisecond of its
    day, and these are what the text shows. -/
theorem civilText_of_render {t : Int} {text : String} (h : render t = .ok text) :
    (Date.ofDayNumber (t / 86400000)).Valid ∧
      (Date.ofDayNumber (t / 86400000)).toDayNumber = t / 86400000 ∧
      (t % 86400000).toNat < 86400000 ∧
      text = civilText (Date.ofDayNumber (t / 86400000)) (t % 86400000).toNat := by
  have hrange := (render_isOk_iff t).mp ⟨text, h⟩
  rw [← Int.not_lt, ← Int.not_lt, lt_first_iff, last_lt_iff] at hrange
  rcases Date.ofDayNumber_spec (n := t / 86400000) (by omega) (by omega) with ⟨hvalid, hnumber⟩
  refine ⟨hvalid, hnumber, by omega, ?_⟩
  rw [render, (rangeError?_eq_none_iff t).mpr ((render_isOk_iff t).mp ⟨text, h⟩)] at h
  simp only [split_eq, Except.ok.injEq] at h
  exact h.symm

/-- The text of an instant names the instant. -/
theorem parse?_render {t : Instant} {text : String} (h : t.render = .ok text) :
    parse? text = some t := by
  rcases civilText_of_render h with ⟨hvalid, hnumber, htime, htext⟩
  have hspelling := Timestamp.valid_civil hvalid htime
  rw [parse?, htext, Text.trimWhile_eq_self (isBlank_civilText hvalid htime),
    Timestamp.toList_civilText hvalid htime,
    Timestamp.written?_text hspelling (Timestamp.Spelling.map_raised_text hspelling),
    Option.map_some, Timestamp.Spelling.toInstant_written, Timestamp.instant_civil, hnumber,
    Int.toNat_of_nonneg (Int.emod_nonneg t (by decide)), Int.ediv_mul_add_emod]

end Instant

end RecordGateway
