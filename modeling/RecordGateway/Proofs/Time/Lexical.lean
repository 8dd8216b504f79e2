import RecordGateway.Proofs.Time.Order
import RecordGateway.Proofs.Time.RoundTrip

/-!
# Texts of Instants Sort as Time Does

The texts of instants can be sorted without being read. All of them have the same length, and of two
texts the one that is lexicographically smaller is that of the earlier instant.

A text is a row of fields, the most significant first, each padded to a width of its own and
followed by a mark. Two steps lead from time to text. An earlier instant has the smaller list of
fields, since an earlier day has the earlier date, and within a day the hours, minutes, seconds and
milliseconds are the digits of a number in a mixed base. And of two rows of the same layout, the one
with the smaller list of fields is the smaller text, since the first fields that differ begin at the
same place and have the same width.

This is one direction of the statement. The other is the same for the two instants exchanged.

## Main definitions

* `row`: fields of fixed widths, each followed by a mark.
* `Instant.fields`: year, month, day, hour, minute, second and millisecond of an instant.

## Theorems

* `places_lt_places`: the lesser number has the smaller places.
* `row_lt_row`: the smaller list of fields makes the smaller row.
* `Instant.fields_lt_fields`: the earlier instant has the smaller list of fields.
* `Instant.sorted_as_time`: texts of instants sort as the instants do.
-/

namespace RecordGateway

/-- Where two texts of the same length differ, nothing behind them counts. -/
theorem append_lt_append {xs ys : List Char} (hlength : xs.length = ys.length) (h : xs < ys)
    (as bs : List Char) : xs ++ as < ys ++ bs := by
  induction xs generalizing ys with
  | nil =>
      rw [List.length_eq_zero_iff.mp hlength.symm] at h
      exact absurd h (List.lt_irrefl [])
  | cons x xs ih =>
      cases ys with
      | nil => exact absurd hlength (Nat.succ_ne_zero _)
      | cons y ys =>
          rw [List.cons_append, List.cons_append, List.cons_lt_cons_iff]
          rcases List.cons_lt_cons_iff.mp h with hfirst | ⟨hfirst, hrest⟩
          · exact .inl hfirst
          · exact .inr ⟨hfirst, ih (Nat.succ.inj hlength) hrest⟩

theorem digitChar_lt_digitChar : ∀ e, e < 10 → ∀ d, d < e → Nat.digitChar d < Nat.digitChar e := by
  decide

/-- The lesser number has the smaller places. -/
theorem places_lt_places {w m n : Nat} (hn : n < 10 ^ w) (h : m < n) : places w m < places w n := by
  induction w generalizing m n with
  | zero => exact absurd (Nat.lt_one_iff.mp hn) (Nat.ne_of_gt (Nat.zero_lt_of_lt h))
  | succ w ih =>
      rw [Nat.pow_succ] at hn
      rw [places, places]
      rcases Nat.lt_or_eq_of_le (Nat.div_le_div_right (c := 10) (Nat.le_of_lt h)) with hhigh | hhigh
      · refine append_lt_append ?_ (ih (by omega) hhigh) _ _
        rw [length_places, length_places]
      · -- The numbers differ in their last place alone.
        rw [hhigh]
        refine List.append_left_lt (List.cons_lt_cons_iff.mpr (.inl ?_))
        exact digitChar_lt_digitChar _ (Nat.mod_lt n (by decide)) _ (by omega)

/-- Fields of fixed widths, each followed by a mark. -/
def row : List (Nat × Char) → List Nat → List Char
  | (width, mark) :: layout, n :: ns => places width n ++ mark :: row layout ns
  | _, _ => []

/-- Fields that fit into a layout: one for each of its widths, and none of them too long. -/
def FitRow (layout : List (Nat × Char)) (ns : List Nat) : Prop :=
  List.Forall₂ (fun column n => n < 10 ^ column.1) layout ns

/-- Rows of one layout have one length. -/
theorem length_row {layout : List (Nat × Char)} {ns : List Nat} (h : FitRow layout ns) :
    (row layout ns).length = (layout.map fun column => column.1 + 1).sum := by
  induction h with
  | nil => rfl
  | @cons column n layout ns hn hrest ih =>
      rw [row, List.length_append, length_places, List.length_cons, ih, List.map_cons,
        List.sum_cons]
      omega

/-- The smaller list of fields makes the smaller row. -/
theorem row_lt_row {layout : List (Nat × Char)} {ms ns : List Nat} (hm : FitRow layout ms)
    (hn : FitRow layout ns) (h : ms < ns) : row layout ms < row layout ns := by
  induction hm generalizing ns with
  | nil =>
      cases hn
      exact absurd h (List.lt_irrefl [])
  | @cons column m layout ms hm hms ih =>
      cases hn with
      | @cons _ n _ ns hn hns =>
          rcases List.cons_lt_cons_iff.mp h with hfirst | ⟨rfl, hrest⟩
          · refine append_lt_append ?_ (places_lt_places hn hfirst) _ _
            rw [length_places, length_places]
          · exact List.append_left_lt (List.cons_lt_cons_iff.mpr (.inr ⟨rfl, ih hns hrest⟩))

namespace Instant

/-- The widths of the fields of an instant's text, and the marks after them. -/
def layout : List (Nat × Char) :=
  [(4, '-'), (2, '-'), (2, 'T'), (2, ':'), (2, ':'), (2, '.'), (3, 'Z')]

/-- The hour, minute, second and millisecond of a millisecond of a day. -/
def clockFields (ms : Nat) : List Nat :=
  [ms / 3600000, ms / 60000 % 60, ms / 1000 % 60, ms % 1000]

/-- The year, month, day, hour, minute, second and millisecond of an instant. -/
def fields (t : Instant) : List Nat :=
  let (days, ms) := t.split
  let d := Date.ofDayNumber days
  d.year :: d.month :: d.day :: clockFields ms

theorem clockFields_lt {m n : Nat} (h : m < n) : clockFields m < clockFields n := by
  simp only [clockFields, List.cons_lt_cons_iff, List.lt_irrefl, and_false, or_false]
  omega

/-- The fields are those that the text shows, in its order and with its marks. -/
theorem toList_civilText_eq_row {d : Date} {ms : Nat} (hd : d.Valid) (hms : ms < 86400000) :
    (civilText d ms).toList = row layout (d.year :: d.month :: d.day :: clockFields ms) := by
  rw [Timestamp.toList_civilText hd hms]
  simp only [Timestamp.Spelling.text, Timestamp.civil, Timestamp.dateText, Timestamp.clockText,
    Timestamp.secondText, Timestamp.Fraction.text, Timestamp.Zone.text, layout, clockFields, row,
    List.append_assoc, List.cons_append, List.append_nil]

theorem fitRow_fields {d : Date} {ms : Nat} (hd : d.Valid) (hms : ms < 86400000) :
    FitRow layout (d.year :: d.month :: d.day :: clockFields ms) := by
  rcases hd.bounds with ⟨hyear, hmonth, hday⟩
  unfold FitRow layout clockFields
  simp only [List.forall₂_cons, List.Forall₂.nil, and_true]
  omega

/-- The text of an instant is the row of its fields, and they fit. -/
theorem row_fields_of_render {t : Instant} {text : String} (h : t.render = .ok text) :
    text.toList = row layout t.fields ∧ FitRow layout t.fields := by
  rcases civilText_of_render h with ⟨hvalid, -, htime, rfl⟩
  unfold fields
  rw [split_eq]
  exact ⟨toList_civilText_eq_row hvalid htime, fitRow_fields hvalid htime⟩

/-- The earlier instant has the smaller list of fields. -/
theorem fields_lt_fields {t u : Int} {text other : String} (ht : render t = .ok text)
    (hu : render u = .ok other) (h : t < u) : fields t < fields u := by
  rcases civilText_of_render ht with ⟨hdate, hday, -, -⟩
  rcases civilText_of_render hu with ⟨hdate', hday', -, -⟩
  unfold fields
  rw [split_eq, split_eq]
  by_cases hdays : t / 86400000 = u / 86400000
  · -- Within a day the date is the same, and the time of day decides.
    have hclock := clockFields_lt (show (t % 86400000).toNat < (u % 86400000).toNat by omega)
    rw [hdays]
    simp only [List.cons_lt_cons_iff, true_and]
    exact .inr (.inr (.inr hclock))
  · have hdays' : t / 86400000 < u / 86400000 := by omega
    rw [← hday, ← hday'] at hdays'
    have hbefore := (Date.toDayNumber_lt_iff hdate hdate').mp hdays'
    unfold Date.before at hbefore
    simp only [List.cons_lt_cons_iff]
    omega

/-- The text of the earlier instant is the smaller one. -/
theorem render_lt_render {t u : Instant} {text other : String} (ht : t.render = .ok text)
    (hu : u.render = .ok other) (h : t < u) : text < other := by
  rcases row_fields_of_render ht with ⟨hrow, hfit⟩
  rcases row_fields_of_render hu with ⟨hrow', hfit'⟩
  rw [String.lt_iff_toList_lt, hrow, hrow']
  exact row_lt_row hfit hfit' (fields_lt_fields ht hu h)

/-- All texts of instants have the same length. -/
theorem length_of_render {t : Instant} {text : String} (h : t.render = .ok text) :
    text.length = 24 := by
  rcases row_fields_of_render h with ⟨hrow, hfit⟩
  rw [← String.length_toList, hrow, length_row hfit]
  rfl

/-- Texts of instants sort as the instants do: any two instants of the years 1 to 9999 have texts of
    the same length, and one instant is earlier than the other exactly if its text is the smaller
    one, character by character. -/
theorem sorted_as_time {a b : Instant} (ha : -62135596800000 ≤ a ∧ a ≤ 253402300799999)
    (hb : -62135596800000 ≤ b ∧ b ≤ 253402300799999) :
    ∃ s t, a.render = .ok s ∧ b.render = .ok t ∧ s.length = t.length ∧ (a < b ↔ s < t) := by
  rcases (render_isOk_iff a).mpr ha with ⟨s, hs⟩
  rcases (render_isOk_iff b).mpr hb with ⟨t, ht⟩
  refine ⟨s, t, hs, ht, (length_of_render hs).trans (length_of_render ht).symm,
    render_lt_render hs ht, fun hlt => ?_⟩
  -- Were the first instant not the earlier one, its text would not be the smaller one either.
  rcases Int.lt_trichotomy a b with hab | hab | hab
  · exact hab
  · rw [hab, ht, Except.ok.injEq] at hs
    rw [hs] at hlt
    exact absurd hlt (String.lt_irrefl s)
  · exact absurd (render_lt_render ht hs hab) (String.lt_asymm hlt)

/-- The last millisecond before a leap day and the first of it. -/
theorem sorted_as_time_leap_day :
    (-62135596800000 : Int) ≤ 951782399999 ∧ (951782399999 : Int) ≤ 253402300799999 ∧
    (-62135596800000 : Int) ≤ 951782400000 ∧ (951782400000 : Int) ≤ 253402300799999 ∧
    render 951782399999 = .ok "2000-02-28T23:59:59.999Z" ∧
    render 951782400000 = .ok "2000-02-29T00:00:00.000Z" ∧
    "2000-02-28T23:59:59.999Z" < "2000-02-29T00:00:00.000Z" := by
  have hs : render 951782399999 = .ok "2000-02-28T23:59:59.999Z" := by decide +kernel
  have ht : render 951782400000 = .ok "2000-02-29T00:00:00.000Z" := by decide +kernel
  refine ⟨by decide, by decide, by decide, by decide, hs, ht, ?_⟩
  rcases sorted_as_time (a := 951782399999) (b := 951782400000) ⟨by decide, by decide⟩
    ⟨by decide, by decide⟩ with ⟨s, t, hs', ht', -, hiff⟩
  rw [hs, Except.ok.injEq] at hs'
  rw [ht, Except.ok.injEq] at ht'
  rw [hs', ht']
  exact hiff.mp (by decide)

end Instant

end RecordGateway
