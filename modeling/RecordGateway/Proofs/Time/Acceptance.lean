import RecordGateway.Proofs.Time.Grammar
import RecordGateway.Request.Moment

/-!
# Which Texts Name an Instant

A text is accepted exactly if it is a timestamp once the blanks around it are dropped and it is made
upper-case. It is accepted as the instant that the timestamp names, and every other text is refused.

The reader does not make the text upper-case. Where a timestamp has a letter, which is in two places
only, it takes the small one as well. That is the same, because a text that becomes a timestamp when
it is made upper-case differs from it in these two letters alone. So the text is taken apart where
they are, and what is between them is read as it stands.

## Main definitions

* `Timestamp.Spelling.written`: the fields of a timestamp, as the reader returns them.
* `Moment.Spells`: the texts that are some timestamp.

## Theorems

* `Timestamp.written?_eq_some_iff`: what the reader of timestamps takes.
* `Instant.parse?_eq_some_iff`: the same, of whole strings.
* `Moment.parse_exact`: which texts are accepted, and as which instant.
-/

namespace RecordGateway

namespace Timestamp

namespace Spelling

/-- The fractions of a valid timestamp are valid. -/
theorem Valid.fraction {w : Spelling} (hw : w.Valid) : ∀ s f, w.second = some (s, f) → f.Valid :=
  fun s f h => (hw.second s f h).2

/-- The second of a valid timestamp is one on the clock, also if there is none. -/
theorem Valid.second_le {w : Spelling} (hw : w.Valid) : (secondValue w.second).1 ≤ 59 := by
  cases hsecond : w.second with
  | none => exact Nat.zero_le _
  | some value => exact (hw.second value.1 value.2 hsecond).1

/-- A text that becomes a timestamp is one but for the separator and the zone. -/
theorem map_raised_eq_text_iff {w : Spelling} (hw : w.Valid) {cs : List Char} :
    cs.map Text.raised = w.text ↔ ∃ c rest, Text.raised c = w.separator ∧
      rest.map Text.raised = w.zone.text ∧
      cs = dateText w.date ++ c :: (clockText w.hour w.minute w.second ++ rest) := by
  have hdate : ∀ cs, cs.map Text.raised = dateText w.date ↔ cs = dateText w.date := fun _ =>
    Text.map_raised_eq_iff (isPlain_dateText w.date)
  have hclock : ∀ cs, cs.map Text.raised = clockText w.hour w.minute w.second ↔
      cs = clockText w.hour w.minute w.second := fun _ =>
    Text.map_raised_eq_iff (isPlain_clockText hw.fraction)
  rw [text]
  constructor
  · intro h
    rcases List.map_eq_append_iff.mp h with ⟨date, tail, rfl, hd, htail⟩
    rcases List.map_eq_cons_iff.mp htail with ⟨c, tail, rfl, hc, htail⟩
    rcases List.map_eq_append_iff.mp htail with ⟨clock, rest, rfl, ht, hrest⟩
    rw [(hdate date).mp hd, (hclock clock).mp ht]
    exact ⟨c, rest, hc, hrest, rfl⟩
  · rintro ⟨c, rest, hc, hrest, rfl⟩
    rw [List.map_append, List.map_cons, List.map_append, (hdate _).mpr rfl, (hclock _).mpr rfl, hc,
      hrest]

/-- A timestamp has no small letter. -/
theorem map_raised_text {w : Spelling} (hw : w.Valid) : w.text.map Text.raised = w.text := by
  have hseparator : Text.raised w.separator = w.separator := by
    rcases hw.separator with h | h
    · rw [h]
      rfl
    · rw [h]
      rfl
  exact (map_raised_eq_text_iff hw).mpr
    ⟨_, _, hseparator, Zone.map_raised_text hw.zone, rfl⟩

/-- The written time of a timestamp. -/
def written (w : Spelling) : WrittenTime :=
  ⟨⟨w.date, w.hour, w.minute, (secondValue w.second).1, (secondValue w.second).2⟩, w.zone.ahead⟩

end Spelling

theorem mem_separators_iff {c : Char} :
    c ∈ ['T', 't', ' '] ↔ Text.raised c = 'T' ∨ Text.raised c = ' ' := by
  simp only [List.mem_cons, List.not_mem_nil, or_false]
  constructor
  · rintro (rfl | rfl | rfl)
    · exact .inl rfl
    · exact .inl rfl
    · exact .inr rfl
  · unfold Text.raised
    split_ifs with ht hz
    · exact fun _ => .inr (.inl ht)
    · rintro (h | h)
      · cases h
      · cases h
    · rintro (h | h)
      · exact .inl h
      · exact .inr (.inr h)

theorem oneOf_cons {allowed : List Char} {c : Char} (h : c ∈ allowed) (cs : List Char) :
    oneOf allowed (c :: cs) = some ((), cs) := by
  rw [oneOf, if_pos (List.contains_iff_mem.mpr h)]

/-- What the reader takes becomes a timestamp when it is made upper-case. -/
theorem written?_eq_some {cs : List Char} {time : WrittenTime} (h : written? cs = some time) :
    ∃ w : Spelling, w.Valid ∧ cs.map Text.raised = w.text ∧ time = w.written := by
  -- The text is what its parts were, put together again from left to right.
  simp only [written?, Option.bind_eq_bind, Option.bind_eq_some_iff,
    Option.ite_none_right_eq_some, Option.some.injEq, Prod.exists, digits_eq_some_iff] at h
  rcases h with ⟨day, cs₁, hdate, ⟨⟩, cs₂, hseparator, hour, cs₃, ⟨-, rfl⟩, ⟨⟩, cs₄, hcolon, minute,
    cs₅, ⟨-, rfl⟩, second, micros, cs₆, hseconds, offset, cs₇, hzone, ⟨hempty, hclock⟩, rfl⟩
  rcases oneOf_eq_some hseparator with ⟨c, hc, rfl⟩
  rcases oneOf_eq_some hcolon with ⟨_, hc', rfl⟩
  rcases seconds_eq_some hseconds with ⟨fields, hfraction, hvalue, rfl⟩
  rcases zone_eq_some hzone with ⟨z, hz, rfl, read, hread, rfl⟩
  rw [List.isEmpty_iff] at hempty
  rw [List.mem_singleton] at hc'
  subst hempty hc'
  rcases hclock with ⟨hday, hhour, hminute, hsecond⟩
  have hfields : ∀ s f, fields = some (s, f) → s ≤ 59 ∧ f.Valid := by
    intro s f hsome
    rw [hsome] at hvalue
    have hs : s = second := congrArg Prod.fst hvalue
    exact ⟨hs ▸ hsecond, hfraction s f hsome⟩
  let w : Spelling := ⟨day, Text.raised c, hour, minute, fields, z⟩
  have hw : w.Valid := ⟨hday, mem_separators_iff.mp hc, hhour, hminute, hfields, hz⟩
  refine ⟨w, hw, (Spelling.map_raised_eq_text_iff hw).mpr ⟨c, read, rfl, hread, ?_⟩, ?_⟩
  · rw [date_eq_some hdate, clockText]
    simp only [List.append_assoc, List.cons_append, List.append_nil, w]
  · simp only [Spelling.written, hvalue, w]

/-- What becomes a timestamp when it is made upper-case is read as that timestamp. -/
theorem written?_text {w : Spelling} (hw : w.Valid) {cs : List Char}
    (h : cs.map Text.raised = w.text) : written? cs = some w.written := by
  rcases (Spelling.map_raised_eq_text_iff hw).mp h with ⟨c, rest, hc, hrest, rfl⟩
  have hseparator : c ∈ ['T', 't', ' '] := mem_separators_iff.mpr (hc ▸ hw.separator)
  have hhour : w.hour < 10 ^ 2 := Nat.lt_of_le_of_lt hw.hour (by decide)
  have hminute : w.minute < 10 ^ 2 := Nat.lt_of_le_of_lt hw.minute (by decide)
  have hcolon : ':' ∈ [':'] := List.mem_singleton_self _
  have hseconds := seconds_text hw.second (ends_zone hw.zone hrest)
  have hclock : LocalTime.Valid ⟨w.date, w.hour, w.minute, (secondValue w.second).1,
      (secondValue w.second).2⟩ := ⟨hw.date, hw.hour, hw.minute, hw.second_le⟩
  simp only [written?, date_text hw.date, clockText, List.append_assoc, List.cons_append,
    oneOf_cons hseparator, digits_places hhour, oneOf_cons hcolon, digits_places hminute,
    hseconds, zone_text hw.zone hrest, Option.bind_eq_bind, Option.bind_some]
  rw [if_pos ⟨rfl, hclock⟩, Spelling.written]

/-- What the reader of timestamps takes. -/
theorem written?_eq_some_iff {cs : List Char} {time : WrittenTime} :
    written? cs = some time ↔
      ∃ w : Spelling, w.Valid ∧ cs.map Text.raised = w.text ∧ time = w.written :=
  ⟨written?_eq_some, fun ⟨_, hw, h, htime⟩ => htime ▸ written?_text hw h⟩

namespace Spelling

/-- A timestamp is made of signs. -/
theorem isSign_text {w : Spelling} (hw : w.Valid) : ∀ c ∈ w.text, Text.isSign c = true := by
  have hseparator : Text.isSign w.separator = true := by
    rcases hw.separator with h | h
    · rw [h]
      decide
    · rw [h]
      decide
  rw [text, List.forall_mem_append, List.forall_mem_cons, List.forall_mem_append]
  exact ⟨fun c hc => Text.isSign_of_isPlain (isPlain_dateText w.date c hc), hseparator,
    fun c hc => Text.isSign_of_isPlain (isPlain_clockText hw.fraction c hc),
    Zone.isSign_text hw.zone⟩

/-- The instant that a timestamp names is that of its written time. -/
theorem toInstant_written (w : Spelling) : w.written.toInstant = w.instant := by
  rw [WrittenTime.toInstant, instant]
  congr 1
  simp only [written, LocalTime.toMicros]
  ring

end Spelling

end Timestamp

namespace Instant

/-- The texts that name an instant, and the instant each of them names. -/
theorem parse?_eq_some_iff {s : String} {t : Instant} :
    parse? s = some t ↔ ∃ w : Timestamp.Spelling, w.Valid ∧
      Text.upper (Text.trimWhile Text.isBlank s.toList) = w.text ∧ t = w.instant := by
  simp only [parse?, Option.map_eq_some_iff, Timestamp.written?_eq_some_iff]
  constructor
  · rintro ⟨_, ⟨w, hw, htext, rfl⟩, rfl⟩
    exact ⟨w, hw, (Text.upper_eq_iff (Timestamp.Spelling.isSign_text hw)).mpr htext,
      w.toInstant_written⟩
  · rintro ⟨w, hw, htext, rfl⟩
    have hraised := (Text.upper_eq_iff (Timestamp.Spelling.isSign_text hw)).mp htext
    exact ⟨w.written, ⟨w, hw, hraised, rfl⟩, w.toInstant_written⟩

end Instant

/-- Only a string is the string of a loose text. -/
theorem LooseText.eq_ofString_of_toString? {text : LooseText} {s : String}
    (h : text.toString? = some s) : text = .ofString s := by
  have hletters : ∀ {letters : List Letter} {cs : List Char},
      letters.mapM Letter.char? = some cs → letters = cs.map .char := by
    intro letters
    induction letters with
    | nil =>
        intro cs h
        cases h
        rfl
    | cons letter rest ih =>
        intro cs h
        simp only [List.mapM_cons, Option.bind_eq_bind, Option.bind_eq_some_iff, Option.pure_def,
          Option.some.injEq] at h
        rcases h with ⟨c, hc, tail, htail, rfl⟩
        cases letter with
        | half half => cases hc
        | char d =>
            cases hc
            rw [ih htail, List.map_cons]
  rcases Option.map_eq_some_iff.mp h with ⟨cs, hcs, rfl⟩
  rw [ofString, String.toList_ofList, ← hletters hcs]

namespace Moment

/-- A text that is a timestamp once the blanks around it are dropped and it is made upper-case. -/
def Spells (text : LooseText) (w : Timestamp.Spelling) : Prop :=
  w.Valid ∧ ∃ s : String, text = .ofString s ∧
    Text.upper (Text.trimWhile Text.isBlank s.toList) = w.text

/-- The instants that texts name. -/
theorem bind_parse?_eq_some_iff {text : LooseText} {t : Instant} :
    text.toString?.bind Instant.parse? = some t ↔ ∃ w, Spells text w ∧ t = w.instant := by
  rw [Option.bind_eq_some_iff]
  constructor
  · rintro ⟨s, hs, ht⟩
    rcases Instant.parse?_eq_some_iff.mp ht with ⟨w, hw, htext, rfl⟩
    exact ⟨w, ⟨hw, s, LooseText.eq_ofString_of_toString? hs, htext⟩, rfl⟩
  · rintro ⟨w, ⟨hw, s, rfl, htext⟩, rfl⟩
    exact ⟨s, LooseText.toString?_ofString s,
      Instant.parse?_eq_some_iff.mpr ⟨w, hw, htext, rfl⟩⟩

/-- A text is read as an instant exactly if it is a timestamp, up to the case of letters and the
    blanks around it, and then as the instant that the timestamp names. Every other text is refused,
    and shown as it came. Days are counted from the first one of 1970 on, one after another. -/
theorem parse_exact (text : LooseText) :
    (∀ t, parse (some text) = .ok (some t) ↔ ∃ w, Spells text w ∧ t = w.instant) ∧
    (parse (some text) = .error (.badTimestamp text) ↔ ¬∃ w, Spells text w) ∧
    Date.toDayNumber ⟨1970, 1, 1⟩ = 0 ∧
    ∀ d : Date, d.Valid → d.next.toDayNumber = d.toDayNumber + 1 := by
  refine ⟨fun t => ?_, ?_, by decide, fun d hd => Date.toDayNumber_next hd⟩
  · rw [← bind_parse?_eq_some_iff, parse]
    cases text.toString?.bind Instant.parse? with
    | none => exact ⟨fun h => (nomatch h), fun h => (nomatch h)⟩
    | some u => simp only [Except.ok.injEq]
  · have hnone : text.toString?.bind Instant.parse? = none ↔ ¬∃ w, Spells text w := by
      rw [Option.eq_none_iff_forall_ne_some]
      simp only [ne_eq, bind_parse?_eq_some_iff]
      exact ⟨fun h ⟨w, hw⟩ => h w.instant ⟨w, hw, rfl⟩, fun h t ⟨w, hw, _⟩ => h ⟨w, hw⟩⟩
    rw [← hnone, parse]
    cases text.toString?.bind Instant.parse? with
    | none => exact ⟨fun _ => rfl, fun _ => rfl⟩
    | some u => exact ⟨fun h => (nomatch h), fun h => (nomatch h)⟩

/-- A time on a leap day before 1970, with more digits than count and behind UTC. -/
def leapDay : Timestamp.Spelling where
  date := ⟨1968, 2, 29⟩
  separator := 'T'
  hour := 23
  minute := 30
  second := some (15, .point ['1', '2', '3', '9', '9', '9'] [Char.ofNat 0x663])
  zone := .shifted '-' 1 false 30

/-- The time as it may be written, between blanks and with a small letter. -/
def leapDayText : LooseText :=
  .ofString "\t1968-02-29t23:30:15.123999\u0663-0130 "

theorem valid_leapDay : leapDay.Valid where
  date := by decide
  separator := .inl rfl
  hour := by decide
  minute := by decide
  second := by
    rintro _ _ ⟨⟩
    refine ⟨by decide, by decide, by decide, ?_, ?_, fun _ => rfl⟩
    · simp [Text.isAsciiDigit]
    · simp only [List.forall_mem_singleton]
      decide
  zone := ⟨by decide, by decide, by decide⟩

theorem spells_leapDay : Spells leapDayText leapDay :=
  ⟨valid_leapDay, _, rfl,
    (Text.upper_eq_iff (Timestamp.Spelling.isSign_text valid_leapDay)).mpr (by decide)⟩

/-- The time is an hour and fifteen seconds into 1 March, the day after the leap day. -/
theorem parse_exact_leap_day :
    parse (some leapDayText) = .ok (some (-57970784877)) ∧
    Date.Valid ⟨1968, 2, 29⟩ ∧
    Date.toDayNumber ⟨1968, 3, 1⟩ = Date.toDayNumber ⟨1968, 2, 29⟩ + 1 :=
  ⟨((parse_exact leapDayText).1 _).mpr ⟨leapDay, spells_leapDay, by decide⟩, by decide,
    (parse_exact leapDayText).2.2.2 ⟨1968, 2, 29⟩ (by decide)⟩

end Moment

end RecordGateway
