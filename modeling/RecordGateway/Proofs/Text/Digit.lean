import RecordGateway.Text.Blank
import RecordGateway.Text.Digit

/-!
# Digits of ASCII among the Characters

The digits of ASCII are no blanks, and among the digits of all scripts they have the values that
they have among themselves.

## Theorems

* `isBlank_of_isAsciiDigit`, `isWhiteSpace_of_isAsciiDigit`: a digit is not trimmed.
* `decimalDigit?_of_isAsciiDigit`: the value of a digit.
-/

namespace RecordGateway

namespace Text

theorem isBlank_of_isAsciiDigit {c : Char} (h : isAsciiDigit c = true) : isBlank c = false := by
  simp only [isAsciiDigit, Bool.and_eq_true, decide_eq_true_eq] at h
  simp only [isBlank, isWhiteSpace, Bool.or_eq_false_iff, Bool.and_eq_false_iff,
    decide_eq_false_iff_not, beq_eq_false_iff_ne]
  omega

theorem isWhiteSpace_of_isAsciiDigit {c : Char} (h : isAsciiDigit c = true) :
    isWhiteSpace c = false :=
  (Bool.or_eq_false_iff.mp (isBlank_of_isAsciiDigit h)).1

/-- The value of a digit of ASCII among the digits of all scripts. -/
theorem decimalDigit?_of_isAsciiDigit {c : Char} (h : isAsciiDigit c = true) :
    decimalDigit? c = some (c.toNat - 0x30) := by
  have hfirst : zeros = 0x30 :: zeros.tail := rfl
  rw [decimalDigit?, hfirst, List.find?_cons_of_pos (by exact h), Option.map_some]

end Text

end RecordGateway
