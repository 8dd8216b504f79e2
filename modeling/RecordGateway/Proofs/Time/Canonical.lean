import RecordGateway.Proofs.Time.RoundTrip

/-!
# One Text for Each Moment

An instant within the calendar has one text, and that text is read as the instant again. A client
may write the same instant in many ways: in another zone, with more places or none, in small
letters, between blanks. All of them lead to the one text that the gateway writes itself, and two
texts lead to the same one exactly if they name the same instant in whole milliseconds.

Everything follows from one fact, that the text of an instant is read as that instant. It makes
writing one-to-one, since the text gives the instant away. And it makes the written text a normal
form: what is read from it is what was read from the text that it was made of.

## Main definitions

* `Moment.Canonical`: the text that the gateway writes for the instant that a text names.

## Theorems

* `Instant.render_eq_error_iff`: which instants have no text.
* `Instant.render_injective`: different instants have different texts.
* `Moment.parse_render`: the text of an instant is accepted as that instant.
* `Moment.canonical_of_spells`: a text that names an instant of the calendar has a normal form.
* `Moment.written_and_read`: writing and reading are inverse, and normal forms are instants.
-/

namespace RecordGateway

namespace Instant

/-- The instants outside the calendar have no text. -/
theorem render_eq_error_iff (t : Instant) :
    (∃ e, t.render = .error e) ↔ t < first ∨ last < t := by
  rw [exists_eq_error_iff, render_isOk_iff, not_and_or, Int.not_le, Int.not_le]

/-- Different instants have different texts. -/
theorem render_injective {t u : Instant} {text : String} (ht : t.render = .ok text)
    (hu : u.render = .ok text) : t = u := by
  have hread := parse?_render ht
  rw [parse?_render hu] at hread
  exact (Option.some.inj hread).symm

end Instant

namespace Moment

/-- A text is accepted as the instant of the timestamp that it is. -/
theorem parse_eq_ok_iff {text : LooseText} {t : Instant} :
    parse (some text) = .ok (some t) ↔ ∃ w, Spells text w ∧ t = w.instant := by
  rw [← bind_parse?_eq_some_iff, parse]
  cases text.toString?.bind Instant.parse? with
  | none => simp only [reduceCtorEq]
  | some u => simp only [Except.ok.injEq]

/-- The text of an instant is accepted as that instant. -/
theorem parse_render {t : Instant} {shown : String} (h : t.render = .ok shown) :
    parse (some (.ofString shown)) = .ok (some t) := by
  rw [parse, LooseText.toString?_ofString, Option.bind_some, Instant.parse?_render h]

/-- The text that the gateway writes for the instant that a text names. -/
def Canonical (text : LooseText) (shown : String) : Prop :=
  ∃ t, parse (some text) = .ok (some t) ∧ t.render = .ok shown

/-- A text that names an instant of the calendar has a normal form, and what the normal form names
    is what the text names. -/
theorem canonical_of_spells {text : LooseText} {w : Timestamp.Spelling} (hw : Spells text w)
    (hfirst : Instant.first ≤ w.instant) (hlast : w.instant ≤ Instant.last) :
    ∃ shown, Canonical text shown ∧ parse (some (.ofString shown)) = parse (some text) := by
  have hparse : parse (some text) = .ok (some w.instant) := parse_eq_ok_iff.mpr ⟨w, hw, rfl⟩
  rcases (Instant.render_isOk_iff w.instant).mpr ⟨hfirst, hlast⟩ with ⟨shown, hshown⟩
  exact ⟨shown, ⟨w.instant, hparse, hshown⟩, (parse_render hshown).trans hparse.symm⟩

/-- The normal form of a text is the text of the instant that it spells. -/
theorem Canonical.render_instant {text : LooseText} {shown : String} {w : Timestamp.Spelling}
    (h : Canonical text shown) (hw : Spells text w) : w.instant.render = .ok shown := by
  rcases h with ⟨t, hparse, hshown⟩
  have ht : parse (some text) = .ok (some w.instant) := parse_eq_ok_iff.mpr ⟨w, hw, rfl⟩
  rw [hparse, Except.ok.injEq, Option.some.injEq] at ht
  rw [← ht]
  exact hshown

/-- Writing and reading instants are inverse. An instant has a text exactly if it lies within the
    years 1 to 9999, before 1970 as well as after, and the text is read as that instant; all others
    are refused. Conversely, a text that names an instant of these years has a normal form, which is
    read as what the text is read as, and two such texts have the same normal form exactly if they
    name the same instant in whole milliseconds, rounded down. -/
theorem written_and_read :
    (∀ t : Instant, (∃ shown, t.render = .ok shown) ↔
      -62135596800000 ≤ t ∧ t ≤ 253402300799999) ∧
    (∀ t : Instant, (∃ e, t.render = .error e) ↔ t < -62135596800000 ∨ 253402300799999 < t) ∧
    (∀ t : Instant, -62135596800000 ≤ t → t ≤ 253402300799999 →
      ∃ shown, t.render = .ok shown ∧ parse (some (.ofString shown)) = .ok (some t)) ∧
    (∀ text w, Spells text w → -62135596800000 ≤ w.instant → w.instant ≤ 253402300799999 →
      ∃ shown, Canonical text shown ∧ parse (some (.ofString shown)) = parse (some text)) ∧
    ∀ text w shown text' w' shown', Spells text w → Spells text' w' → Canonical text shown →
      Canonical text' shown' → (shown = shown' ↔ w.instant = w'.instant) := by
  refine ⟨Instant.render_isOk_iff, Instant.render_eq_error_iff, fun t hfirst hlast => ?_,
    fun text w hw hfirst hlast => canonical_of_spells hw hfirst hlast, ?_⟩
  · rcases (Instant.render_isOk_iff t).mpr ⟨hfirst, hlast⟩ with ⟨shown, hshown⟩
    exact ⟨shown, hshown, parse_render hshown⟩
  · intro text w shown text' w' shown' hw hw' hcanonical hcanonical'
    have hshown := hcanonical.render_instant hw
    have hshown' := hcanonical'.render_instant hw'
    constructor
    · rintro rfl
      exact Instant.render_injective hshown hshown'
    · intro heq
      rw [heq, hshown', Except.ok.injEq] at hshown
      exact hshown.symm

/-- The leap day again: what was written an hour and a half behind UTC, in small letters and between
    blanks, has a normal form in the first minutes of March, and the two name the same instant. -/
theorem written_and_read_leap_day :
    Spells leapDayText leapDay ∧ -62135596800000 ≤ leapDay.instant ∧
    leapDay.instant ≤ 253402300799999 ∧ Canonical leapDayText "1968-03-01T01:00:15.123Z" ∧
    parse (some (.ofString "1968-03-01T01:00:15.123Z")) = parse (some leapDayText) ∧
    ∃ w, Spells (.ofString "1968-03-01T01:00:15.123Z") w ∧ leapDay.instant = w.instant := by
  have hfirst : (-62135596800000 : Int) ≤ leapDay.instant := by decide
  have hlast : leapDay.instant ≤ (253402300799999 : Int) := by decide
  have hshown : leapDay.instant.render = .ok "1968-03-01T01:00:15.123Z" := by decide +kernel
  rcases written_and_read with ⟨-, -, hback, hnormal, hsame⟩
  rcases hnormal leapDayText leapDay spells_leapDay hfirst hlast with ⟨shown, hcanonical, hread⟩
  have heq := hcanonical.render_instant spells_leapDay
  rw [hshown, Except.ok.injEq] at heq
  subst heq
  -- The normal form is its own normal form.
  rcases hback leapDay.instant hfirst hlast with ⟨again, hagain, hparse⟩
  rw [hshown, Except.ok.injEq] at hagain
  subst hagain
  rcases parse_eq_ok_iff.mp hparse with ⟨w, hw, -⟩
  have hinstant := (hsame _ _ _ _ _ _ spells_leapDay hw hcanonical ⟨_, hparse, hshown⟩).mp rfl
  exact ⟨spells_leapDay, hfirst, hlast, hcanonical, hread, w, hw, hinstant⟩

end Moment

end RecordGateway
