import Mathlib.Algebra.Group.Nat.Defs
import RecordGateway.Number.Spelling

/-!
# Numbers in Decimal Are Read Back

A natural number that is written in decimal is read by an integer field as that number, if it has
no more digits than are read from a text. If it has more, the field says so and nothing else. What
is written is in plain form already, so no other spelling is tried.

## Main definitions

* `firstLong`: the first number with too many digits.

## Theorems

* `natOfChars_eq_ofDigitChars`: digits are valued as the library values them.
* `head?_toDigits_ne_zero`: no number but zero begins with a zero.
* `intOfField_toString`: a number in decimal is read back.
* `intOfField_tooLong`: a number with too many digits is refused as such.
-/

namespace RecordGateway

namespace Number

/-- The first number with more digits than are read from a text. -/
def firstLong : Nat :=
  10 ^ maxDigits

theorem natOfChars_eq_ofDigitChars (ds : List Char) :
    natOfChars ds = Nat.ofDigitChars 10 ds 0 := by
  rw [natOfChars, Text.natOfDigits, List.foldl_map, Nat.ofDigitChars_eq_foldl]
  refine congrArg (fun f => ds.foldl f 0) (funext fun n => funext fun c => ?_)
  rw [Nat.mul_comm]
  rfl

theorem isAsciiDigit_of_mem_toDigits {n : Nat} {c : Char} (h : c ∈ Nat.toDigits 10 n) :
    Text.isAsciiDigit c = true := by
  have hdigit := Nat.isDigit_of_mem_toDigits (by decide) (by decide) h
  rw [Char.isDigit, Bool.and_eq_true, decide_eq_true_eq, decide_eq_true_eq] at hdigit
  rw [Text.isAsciiDigit, Bool.and_eq_true, decide_eq_true_eq, decide_eq_true_eq]
  exact hdigit

/-- No number but zero begins with a zero. -/
theorem head?_toDigits_ne_zero {n : Nat} (hn : 0 < n) :
    (Nat.toDigits 10 n).head? ≠ some '0' := by
  induction n using Nat.strongRecOn with
  | ind n ih =>
      rw [Nat.toDigits_eq_if (by decide)]
      by_cases hdigit : n < 10
      · rw [if_pos hdigit]
        simpa using Nat.ne_of_gt hn
      · -- The first digit is that of the number without its last one.
        have hfirst := ih (n / 10) (by omega) (by omega)
        rw [if_neg hdigit, List.head?_append]
        cases hdigits : Nat.toDigits 10 (n / 10) with
        | nil => exact absurd hdigits Nat.toDigits_ne_nil
        | cons d rest =>
            rw [hdigits] at hfirst
            exact hfirst

/-- A text of digits alone is in plain form. Only the first digit and their number count. -/
theorem plainInteger_digits {ds : List Char} (hne : ds ≠ [])
    (hdigits : ∀ c ∈ ds, Text.isAsciiDigit c = true) (hhead : ds.head? ≠ some '0') :
    plainInteger ds =
      if maxDigits < ds.length then .error .tooLong else .ok (natOfChars ds : Int) := by
  cases ds with
  | nil => exact absurd rfl hne
  | cons d rest =>
      have hminus : d ≠ '-' := by
        rintro rfl
        exact absurd (hdigits '-' List.mem_cons_self) (by decide)
      have hwhole : (d :: rest).takeWhile Text.isAsciiDigit = d :: rest := by
        have happend : (d :: rest ++ []).takeWhile Text.isAsciiDigit = d :: rest ++ [] :=
          List.takeWhile_append_of_pos hdigits
        rwa [List.append_nil] at happend
      have hempty : ((d :: rest).isEmpty || decide ((d :: rest).length < (d :: rest).length)) =
          false := by
        rw [List.isEmpty_cons, Bool.false_or, decide_eq_false_iff_not]
        exact Nat.lt_irrefl _
      unfold plainInteger
      split
      rename_i negative body hbody
      split at hbody
      · rename_i hd
        cases hd
        exact absurd rfl hminus
      · cases hbody
        dsimp only
        rw [hwhole, if_neg hhead, hempty]
        rfl

theorem toList_toString (n : Nat) : (toString n).toList = Nat.toDigits 10 n :=
  Nat.toList_repr

/-- A number in decimal is read back, unless it has too many digits. -/
theorem intOfField_decimal (n : Nat) :
    intOfField (toString n) =
      if maxDigits < (Nat.toDigits 10 n).length then .error .tooLong else .ok (n : Int) := by
  have hplain : plainInteger (Nat.toDigits 10 n) =
      if maxDigits < (Nat.toDigits 10 n).length then .error .tooLong else .ok (n : Int) := by
    by_cases hzero : n = 0
    · subst hzero
      rfl
    · rw [plainInteger_digits Nat.toDigits_ne_nil (fun c => isAsciiDigit_of_mem_toDigits)
        (head?_toDigits_ne_zero (Nat.pos_of_ne_zero hzero)), natOfChars_eq_ofDigitChars,
        Nat.ofDigitChars_ten_toDigits]
  rw [intOfField, toList_toString, hplain]
  by_cases hlong : maxDigits < (Nat.toDigits 10 n).length
  · rw [if_pos hlong]
  · rw [if_neg hlong]

/-- A number in decimal is read back if it has no more digits than are read from a text. -/
theorem intOfField_toString {n : Nat} (h : n < firstLong) :
    intOfField (toString n) = .ok (n : Int) := by
  have hlength := (Nat.length_toDigits_le_iff (by decide) (by decide)).mpr h
  rw [intOfField_decimal, if_neg (Nat.not_lt.mpr hlength)]

/-- A number with more digits than are read from a text is refused for that reason. -/
theorem intOfField_tooLong {n : Nat} (h : firstLong ≤ n) :
    intOfField (toString n) = .error .tooLong := by
  have hlength : maxDigits < (Nat.toDigits 10 n).length := by
    refine Nat.lt_of_not_le fun hshort => ?_
    have hsmall := (Nat.length_toDigits_le_iff (by decide) (by decide)).mp hshort
    exact Nat.not_lt.mpr h hsmall
  rw [intOfField_decimal, if_pos hlength]

end Number

end RecordGateway
