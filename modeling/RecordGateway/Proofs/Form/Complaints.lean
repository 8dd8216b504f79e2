import RecordGateway.Form.Scalar

/-!
# What Checks Complain About

A check that does not pass has at least one issue, and every issue is a complaint about an input.
Which complaints and which inputs these can be follows from the way the check is put together: a
check of a value complains about that value, a bound on an integer about the value that was read as
one, and a list about its items. Where in a form the input stands is of no account for this.

Checks of single values never complain about nesting. Only what reads a text as JSON can.

## Main definitions

* `Checked.Complains`: there are issues, all of some sort.
* `Complaint.IsPlain`: a complaint about something other than nesting.
* `Complaint.IsAbout`: a plain complaint about a value.

## Theorems

* `Complains.combine`, `complains_listFrom`: the issues of parts put together.
* `Field.looseText_complains`, `Field.string_complains`, `Field.integer_complains`,
  `Field.number_complains`: a field complains about its own input.
* `Field.atLeast_complains`, `Field.atMost_complains`, `Field.orNull_complains`: and so does a field
  with a bound or with null.
-/

namespace RecordGateway

/-- A complaint about something other than nesting. -/
def Complaint.IsPlain (complaint : Complaint) : Prop :=
  ∀ kind, complaint ≠ .tooDeep kind

/-- A plain complaint about a value. -/
def Complaint.IsAbout (v : Json) (complaint : Complaint) (input : Json) : Prop :=
  complaint.IsPlain ∧ input = v

namespace Checked

variable {α β : Type} {P : Complaint → Json → Prop}

/-- A check that does not pass has issues, and all are of some sort. -/
def Complains (P : Complaint → Json → Prop) (c : Checked α) : Prop :=
  ∀ issues, c = .bad issues → issues ≠ [] ∧ ∀ i ∈ issues, P i.complaint i.input

/-- What passed complains about nothing. -/
theorem complains_good (a : α) : Complains P (.good a) := nofun

/-- A single complaint is the only issue. -/
theorem complains_complain {complaint : Complaint} {input : Json} (h : P complaint input) :
    Complains P (complain complaint input : Checked α) := by
  -- There is one list of issues to speak of, the one with this complaint in it.
  rintro _ ⟨⟩
  exact ⟨List.cons_ne_nil _ _, List.forall_mem_singleton.mpr h⟩

/-- Issues of some sort are issues of any wider sort. -/
theorem Complains.mono {Q : Complaint → Json → Prop} {c : Checked α} (h : Complains P c)
    (hPQ : ∀ complaint v, P complaint v → Q complaint v) : Complains Q c :=
  fun issues hissues => (h issues hissues).imp_right fun hall i hi => hPQ _ _ (hall i hi)

/-- What is made of a value that passed is of no account for the issues. -/
theorem Complains.map {c : Checked α} (h : Complains P c) (f : α → β) : Complains P (c.map f) := by
  cases c with
  | good a => exact complains_good _
  -- The list of issues is handed on as it is.
  | bad issues =>
      rintro _ ⟨⟩
      exact h issues rfl

/-- Moving issues one step out changes neither what they complain about nor how many there are. -/
theorem Complains.under {c : Checked α} (h : Complains P c) (step : Step) :
    Complains P (c.under step) := by
  cases c with
  | good a => exact complains_good _
  | bad issues =>
      rintro _ ⟨⟩
      -- The step goes in front of the place of every issue; its complaint and its input stay.
      rcases h issues rfl with ⟨hne, hall⟩
      exact ⟨mt List.map_eq_nil_iff.mp hne, List.forall_mem_map.mpr hall⟩

/-- A value is looked at further only if it passed, so there are issues of one look or of the
    other, never of both. -/
theorem Complains.andThen {c : Checked α} {f : α → Checked β} (h : Complains P c)
    (hf : ∀ a, Complains P (f a)) : Complains P (c.andThen f) := by
  cases c with
  | good a => exact hf a
  -- There was no second look, and the issues are those of the first.
  | bad issues =>
      rintro _ ⟨⟩
      exact h issues rfl

/-- The issues of two parts are put together. -/
theorem Complains.combine {f : Checked (α → β)} {c : Checked α} (hf : Complains P f)
    (hc : Complains P c) : Complains P (f.combine c) := by
  cases f with
  | good g =>
      cases c with
      | good a => exact complains_good _
      | bad issues =>
          rintro _ ⟨⟩
          exact hc issues rfl
  -- The first part is wrong: its issues are all there is, or come first.
  | bad first =>
      rcases hf first rfl with ⟨hne, hfirst⟩
      cases c with
      | good a =>
          rintro _ ⟨⟩
          exact ⟨hne, hfirst⟩
      | bad second =>
          -- Both parts are wrong, and the issues of the first one alone are enough to have some.
          rintro _ ⟨⟩
          exact ⟨List.append_ne_nil_of_left_ne_nil hne second,
            List.forall_mem_append.mpr ⟨hfirst, (hc second rfl).2⟩⟩

/-- A list complains about its items. By induction on the items, each of which is a part. -/
theorem complains_listFrom {check : Json → Checked α} (h : ∀ v, Complains P (check v)) (n : Nat)
    (xs : List Json) : Complains P (listFrom check n xs) := by
  induction xs generalizing n with
  | nil => exact complains_good _
  -- The first item is a part of its own, whose issues stand at its number, and the rest is the
  -- list from the next number on.
  | cons x xs ih => exact (((h x).under _).map _).combine (ih (n + 1))

end Checked

namespace Field

open Checked Complaint

variable {α : Type} {v : Json}

/-- Whatever is said of a value itself, but for nesting, is plainly about it. -/
theorem complains_about {complaint : Complaint} (h : complaint.IsPlain) :
    Complains (IsAbout v) (complain complaint v : Checked α) :=
  complains_complain ⟨h, rfl⟩

/-- A text complains about what is no text. -/
theorem looseText_complains (v : Json) : Complains (IsAbout v) (looseText v) := by
  cases v with
  | str t => exact complains_good t
  | _ => exact complains_about nofun

/-- A string complains about halves of surrogate pairs too. -/
theorem string_complains (v : Json) : Complains (IsAbout v) (string v) := by
  refine (looseText_complains v).andThen fun t => ?_
  -- The second look has a text at hand, and complains about the value it came from.
  cases t.toString? with
  | some s => exact complains_good s
  | none => exact complains_about nofun

/-- An integer complains about the value that it is read from, a text included. -/
theorem integer_complains (v : Json) : Complains (IsAbout v) (integer v) := by
  -- One case for each spelling: the branches of the check are what may be wrong with it.
  cases v with
  | int n => exact complains_good n
  | bool b => exact complains_good _
  | real x =>
      simp only [integer, integerOfReal]
      split
      · split
        · split
          · exact complains_good _
          · exact complains_about nofun
        · exact complains_about nofun
      · exact complains_about nofun
  -- A text is complained about as the text it is, never as the number that it spells.
  | str t =>
      simp only [integer, integerOfText]
      split
      · exact complains_about nofun
      · split
        · exact complains_good _
        · exact complains_about nofun
        · exact complains_about nofun
  | _ => exact complains_about nofun

/-- A number complains about the value that it is read from. -/
theorem number_complains (v : Json) : Complains (IsAbout v) (number v) := by
  have hinteger : ∀ n, Complains (IsAbout (.int n)) (numberOfInteger n) := by
    intro n
    simp only [numberOfInteger]
    split
    · exact complains_good _
    · exact complains_about nofun
  -- An integer has to be a finite number; the other spellings are those of the check.
  cases v with
  | int n => exact hinteger n
  | bool b =>
      -- Zero and one are finite.
      cases b <;> exact complains_good _
  -- Anything that is a number already passes, not-a-number too.
  | real x => exact complains_good x
  | str t =>
      simp only [number, numberOfText]
      split
      · exact complains_about nofun
      · split
        · exact complains_good _
        · exact complains_about nofun
  | _ => exact complains_about nofun

/-- A lower bound complains about the value that was read, not about the integer. -/
theorem atLeast_complains (bound : Int) {check : Json → Checked Int}
    (h : Complains (IsAbout v) (check v)) : Complains (IsAbout v) (atLeast bound check v) := by
  refine h.andThen fun n => ?_
  -- Within the bound or not: what is not is complained about with the input of the whole check.
  split
  · exact complains_about nofun
  · exact complains_good n

/-- And so does an upper bound. -/
theorem atMost_complains (bound : Int) {check : Json → Checked Int}
    (h : Complains (IsAbout v) (check v)) : Complains (IsAbout v) (atMost bound check v) := by
  refine h.andThen fun n => ?_
  split
  · exact complains_about nofun
  · exact complains_good n

/-- So does the bound on a number. -/
theorem nonnegative_complains (v : Json) : Complains (IsAbout v) (nonnegative v) := by
  refine (number_complains v).andThen fun x => ?_
  -- Not-a-number is not at least zero, and is complained about like a negative number.
  split
  · exact complains_good x
  · exact complains_about nofun

/-- Null passes, and about anything else the complaints are those of the check. -/
theorem orNull_complains {check : Json → Checked α} (h : Complains (IsAbout v) (check v)) :
    Complains (IsAbout v) (orNull check v) := by
  cases v with
  -- Null is not handed to the check at all.
  | null => exact complains_good none
  | _ => exact h.map some

end Field

end RecordGateway
