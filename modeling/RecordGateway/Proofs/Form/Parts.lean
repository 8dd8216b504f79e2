import RecordGateway.Form.Scalar

/-!
# The Parts of a Check

A form is put together from checks that do not know of each other. So it passes exactly if all its
parts pass, with what they passed with, and what is wrong with it is what is wrong with its parts,
one after another. A part may look further at what passed, or say where in the form it stands; both
leave a value as it is.

## Main definitions

* `Checked.isGood`, `Checked.issues`: whether a value passed, and what is wrong if not.

## Theorems

* `map_eq_good_iff`, `seq_eq_good_iff`: what passes when checks are combined.
* `isGood_map`, `isGood_seq`: whether it passes.
* `issues_map`, `issues_seq`: what is wrong with it.
* `andThen_eq_good_iff`, `under_eq_good_iff`, `ite_complain_eq_good_iff`: what passes within a part.
* `Field.string_text`: strings pass as they are.
* `Field.atLeast_eq_good_iff`, `Field.atMost_eq_good_iff`, `Field.nonnegative_eq_good_iff`: which
  numbers pass with a bound.
-/

namespace RecordGateway

variable {α β : Type}

namespace Checked

/-- Whether a value passed its checks. -/
def isGood : Checked α → Bool
  | .good _ => true
  | .bad _ => false

/-- What is wrong, which is nothing if the value passed. -/
def issues : Checked α → List Issue
  | .good _ => []
  | .bad issues => issues

/-- A value passed exactly if there is one. The right side is what the lemmas below speak of, the
    left side what computes. -/
theorem isGood_iff {c : Checked α} : c.isGood = true ↔ ∃ a, c = .good a := by
  cases c with
  | good a => exact iff_of_true rfl ⟨a, rfl⟩
  -- What did not pass has no value, and is not said to have passed.
  | bad issues => exact iff_of_false nofun nofun

/-- If it did not pass, all that there is is what is wrong. -/
theorem isGood_eq_false_iff {c : Checked α} : c.isGood = false ↔ c = .bad c.issues := by
  cases c with
  | good a => exact iff_of_false nofun nofun
  | bad issues => exact iff_of_true rfl rfl

/-- What has an issue did not pass. A value that passed has none, so the issue alone tells which of
    the two it is. -/
theorem eq_bad_of_mem_issues {c : Checked α} {i : Issue} (h : i ∈ c.issues) :
    c = .bad c.issues := by
  cases c with
  | good a => cases h
  | bad issues => rfl

/-- What passes when a value that passed is changed is the changed value. -/
theorem map_eq_good_iff {f : α → β} {c : Checked α} {b : β} :
    f <$> c = .good b ↔ ∃ a, c = .good a ∧ f a = b := by
  cases c with
  | good a =>
      constructor
      · intro h
        cases h
        exact ⟨a, rfl, rfl⟩
      · -- The value that passed is the only one there is, so the change of it is `b` itself.
        rintro ⟨_, ⟨⟩, rfl⟩
        rfl
  | bad issues => exact iff_of_false nofun nofun

/-- Two checks pass together exactly if both pass. A form with many fields is this lemma once for
    each field, from the last one to the first. -/
theorem seq_eq_good_iff {f : Checked (α → β)} {c : Checked α} {b : β} :
    f <*> c = .good b ↔ ∃ g, f = .good g ∧ ∃ a, c = .good a ∧ g a = b := by
  cases f with
  | good g =>
      -- A function that passed is applied as if there had been no check of it.
      have hmap : (.good g : Checked (α → β)) <*> c = g <$> c := by
        cases c <;> rfl
      rw [hmap, map_eq_good_iff]
      constructor
      · exact fun h => ⟨g, rfl, h⟩
      · rintro ⟨_, ⟨⟩, h⟩
        exact h
  -- The first part alone is enough to fail, whatever the second one is.
  | bad issues => cases c <;> exact iff_of_false nofun nofun

/-- Changing the value changes nothing about whether it passed. -/
theorem isGood_map (f : α → β) (c : Checked α) : (f <$> c).isGood = c.isGood := by
  cases c <;> rfl

/-- Two checks pass together exactly if both pass, as a computation. -/
theorem isGood_seq (f : Checked (α → β)) (c : Checked α) :
    (f <*> c).isGood = (f.isGood && c.isGood) := by
  cases f <;> cases c <;> rfl

/-- Changing the value changes nothing about what is wrong. -/
theorem issues_map (f : α → β) (c : Checked α) : (f <$> c).issues = c.issues := by
  cases c <;> rfl

/-- What is wrong with both parts is told, the issues of the first part first. -/
theorem issues_seq (f : Checked (α → β)) (c : Checked α) :
    (f <*> c).issues = f.issues ++ c.issues := by
  cases f with
  | good g => cases c <;> rfl
  | bad first =>
      cases c with
      -- A second part that passed adds an empty list at the end.
      | good a => exact (List.append_nil first).symm
      | bad second => rfl

/-- A value that is looked at further passes exactly if it passes both looks. -/
theorem andThen_eq_good_iff {c : Checked α} {f : α → Checked β} {b : β} :
    c.andThen f = .good b ↔ ∃ a, c = .good a ∧ f a = .good b := by
  cases c with
  | good a =>
      constructor
      · exact fun h => ⟨a, rfl, h⟩
      · rintro ⟨_, ⟨⟩, h⟩
        exact h
  -- What did not pass the first look is not given a second one.
  | bad issues => exact iff_of_false nofun nofun

/-- Saying where a value stands leaves it as it is. -/
theorem under_eq_good_iff {step : Step} {c : Checked α} {a : α} :
    c.under step = .good a ↔ c = .good a := by
  cases c with
  | good a => exact Iff.rfl
  | bad issues => exact iff_of_false nofun nofun

/-- What is complained about under a condition passes exactly if the condition is not met. -/
theorem ite_complain_eq_good_iff {P : Prop} [Decidable P] {complaint : Complaint} {v : Json}
    {a b : α} : (if P then complain complaint v else .good a) = .good b ↔ ¬ P ∧ a = b := by
  by_cases h : P
  · -- Met: there is an issue and no value.
    rw [if_pos h]
    exact iff_of_false nofun fun hb => hb.1 h
  · -- Not met: the value is `a`, and both sides say so.
    rw [if_neg h, Checked.good.injEq]
    exact ⟨fun hb => ⟨h, hb⟩, And.right⟩

end Checked

namespace Field

/-- A string passes as it is. -/
theorem string_text (s : String) : string (.text s) = .good s := by
  -- A string holds no half of a pair, so the second look finds the string again.
  rw [Json.text, string, looseText]
  simp only [Checked.andThen, LooseText.toString?_ofString]

/-- An integer passes with a lower bound exactly if it is not below. -/
theorem atLeast_eq_good_iff {bound n : Int} {check : Json → Checked Int} {v : Json} :
    atLeast bound check v = .good n ↔ check v = .good n ∧ bound ≤ n := by
  -- The bound is a second look, at the integer that was read.
  rw [atLeast, Checked.andThen_eq_good_iff]
  simp only [Checked.ite_complain_eq_good_iff, Int.not_lt]
  constructor
  · rintro ⟨m, hm, hle, rfl⟩
    exact ⟨hm, hle⟩
  · exact fun h => ⟨n, h.1, h.2, rfl⟩

/-- An integer passes with an upper bound exactly if it is not above. -/
theorem atMost_eq_good_iff {bound n : Int} {check : Json → Checked Int} {v : Json} :
    atMost bound check v = .good n ↔ check v = .good n ∧ n ≤ bound := by
  rw [atMost, Checked.andThen_eq_good_iff]
  simp only [Checked.ite_complain_eq_good_iff, Int.not_lt]
  constructor
  · rintro ⟨m, hm, hle, rfl⟩
    exact ⟨hm, hle⟩
  · exact fun h => ⟨n, h.1, h.2, rfl⟩

/-- A number passes exactly if it is at least zero, which not-a-number is not. -/
theorem nonnegative_eq_good_iff {v : Json} {x : Binary64} :
    nonnegative v = .good x ↔ number v = .good x ∧ x.isNonnegative = true := by
  rw [nonnegative, Checked.andThen_eq_good_iff]
  constructor
  · -- The branch of the second look is the one where the number is not negative, as the other one
    -- has an issue.
    rintro ⟨y, hy, hx⟩
    split at hx
    · next hnonnegative =>
      cases hx
      exact ⟨hy, hnonnegative⟩
    · cases hx
  · rintro ⟨hx, hnonnegative⟩
    exact ⟨x, hx, if_pos hnonnegative⟩

end Field

end RecordGateway
