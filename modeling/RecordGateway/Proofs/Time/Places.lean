import Mathlib.Tactic.Ring
import RecordGateway.Time.Notation

/-!
# Decimal Places

Fields of a timestamp have a fixed width, and what is written in one are the last decimal places of
a number.

A number below `10 ^ w`, padded to `w` places, is its `w` last places, so padding with zeros does
not show in what follows. The reader takes the places one by one, most significant first. It takes
those of a number for that number, and it takes nothing else.

## Main definitions

* `places`: the last decimal places of a number, as digits.

## Theorems

* `zeroPadded_eq`: a padded number is its last decimal places.
* `ofDigitChars_places`: the places of a number have its value.
* `Timestamp.digits_eq_some_iff`: what a reader of digits takes.
-/

namespace RecordGateway

/-- The last `w` decimal places of a number, most significant first. -/
def places : Nat → Nat → List Char
  | 0, _ => []
  | w + 1, n => places w (n / 10) ++ [Nat.digitChar (n % 10)]

theorem length_places (w n : Nat) : (places w n).length = w := by
  induction w generalizing n with
  | zero => rfl
  | succ w ih => rw [places, List.length_append, ih, List.length_singleton]

theorem places_zero (w : Nat) : places w 0 = List.replicate w '0' := by
  induction w with
  | zero => rfl
  | succ w ih =>
      rw [places, ih, List.replicate_succ']
      rfl

theorem asciiDigit?_digitChar : ∀ d, d < 10 → Text.asciiDigit? (Nat.digitChar d) = some d := by
  decide

theorem isAsciiDigit_digitChar : ∀ d, d < 10 → Text.isAsciiDigit (Nat.digitChar d) = true := by
  decide

theorem isAsciiDigit_of_mem_places {c : Char} {w n : Nat} (h : c ∈ places w n) :
    Text.isAsciiDigit c = true := by
  induction w generalizing n with
  | zero => cases h
  | succ w ih =>
      rcases List.mem_append.mp h with hmem | hmem
      · exact ih hmem
      · rw [List.mem_singleton.mp hmem]
        exact isAsciiDigit_digitChar _ (Nat.mod_lt _ (by decide))

/-- A number below `10 ^ (w + 1)`, padded to `w + 1` places, is its last `w + 1` places. -/
theorem zeroPadded_eq {w n : Nat} (h : n < 10 ^ (w + 1)) :
    (zeroPadded (w + 1) n).toList = places (w + 1) n := by
  rw [zeroPadded, String.toList_ofList]
  induction w generalizing n with
  | zero =>
      have hdigit : n < 10 := h
      rw [Nat.toDigits_of_lt_base hdigit, places, Nat.mod_eq_of_lt hdigit]
      rfl
  | succ w ih =>
      rw [places]
      by_cases hdigit : n < 10
      · rw [Nat.toDigits_of_lt_base hdigit, Nat.div_eq_of_lt hdigit, Nat.mod_eq_of_lt hdigit,
          places_zero]
        rfl
      · -- The last digit comes off both sides, and the padding stays the same.
        have hten : n / 10 < 10 ^ (w + 1) := by
          rw [Nat.pow_succ] at h
          omega
        rw [Nat.toDigits_of_base_le (by decide) (Nat.not_lt.mp hdigit), ← ih hten,
          List.length_append, List.length_singleton, Nat.add_sub_add_right, List.append_assoc]

/-- The places of a number have its value. -/
theorem ofDigitChars_places {w n : Nat} (h : n < 10 ^ w) :
    Nat.ofDigitChars 10 (places w n) 0 = n := by
  induction w generalizing n with
  | zero => exact (Nat.lt_one_iff.mp h).symm
  | succ w ih =>
      have hdigit : (Nat.digitChar (n % 10)).toNat - '0'.toNat = n % 10 := by
        rw [Nat.toNat_digitChar_of_lt_ten (Nat.mod_lt n (by decide))]
        exact Nat.add_sub_cancel_left 48 (n % 10)
      rw [Nat.pow_succ] at h
      rw [places, Nat.ofDigitChars_append, ih (by omega), Nat.ofDigitChars_cons,
        Nat.ofDigitChars_nil, hdigit]
      exact Nat.div_add_mod n 10

namespace Text

theorem asciiDigit?_eq_some {c : Char} {d : Nat} (h : asciiDigit? c = some d) :
    d < 10 ∧ c = Nat.digitChar d := by
  simp only [asciiDigit?, isAsciiDigit, Bool.and_eq_true, decide_eq_true_eq,
    Option.ite_none_right_eq_some, Option.some.injEq] at h
  have hsmall : d < 10 := by omega
  refine ⟨hsmall, Char.toNat_inj.mp ?_⟩
  rw [Nat.toNat_digitChar_of_lt_ten hsmall]
  omega

end Text

namespace Timestamp

theorem go_succ (w value : Nat) (c : Char) (cs : List Char) :
    digits.go (w + 1) value (c :: cs) =
      (Text.asciiDigit? c).bind fun d => digits.go w (value * 10 + d) cs :=
  rfl

theorem go_add (v w value : Nat) (cs : List Char) :
    digits.go (v + w) value cs =
      (digits.go v value cs).bind fun read => digits.go w read.1 read.2 := by
  induction v generalizing value cs with
  | zero => rw [Nat.zero_add, digits.go, Option.bind_some]
  | succ v ih =>
      rw [Nat.succ_add]
      cases cs with
      | nil => rfl
      | cons c cs =>
          rw [go_succ, go_succ]
          cases Text.asciiDigit? c with
          | none => rfl
          | some d =>
              rw [Option.bind_some, Option.bind_some]
              exact ih _ cs

/-- After a number, the places of another one are read as appended to it. -/
theorem go_places {w n : Nat} (h : n < 10 ^ w) (value : Nat) (rest : List Char) :
    digits.go w value (places w n ++ rest) = some (value * 10 ^ w + n, rest) := by
  induction w generalizing n rest with
  | zero =>
      rw [Nat.pow_zero] at h ⊢
      rw [places, List.nil_append, digits.go, Nat.mul_one, Nat.lt_one_iff.mp h, Nat.add_zero]
  | succ w ih =>
      rw [Nat.pow_succ] at h
      rw [places, List.append_assoc, go_add, ih (by omega), Option.bind_some, List.singleton_append,
        go_succ, asciiDigit?_digitChar _ (Nat.mod_lt n (by decide)), Option.bind_some, digits.go,
        Nat.pow_succ, ← Nat.mul_assoc]
      congr 2
      omega

/-- The reader takes the places of a number for that number. -/
theorem digits_places {w n : Nat} (h : n < 10 ^ w) (rest : List Char) :
    digits w (places w n ++ rest) = some (n, rest) := by
  rw [digits, go_places h, Nat.zero_mul, Nat.zero_add]

/-- What is read after a number: the places of another one, appended to it. -/
theorem go_eq_some {w value v : Nat} {cs rest : List Char}
    (h : digits.go w value cs = some (v, rest)) :
    ∃ n, n < 10 ^ w ∧ v = value * 10 ^ w + n ∧ cs = places w n ++ rest := by
  induction w generalizing value cs v rest with
  | zero =>
      cases h
      exact ⟨0, Nat.one_pos, by omega, rfl⟩
  | succ w ih =>
      -- The last digit is read after the others, as the places have it.
      rw [go_add w 1, Option.bind_eq_some_iff] at h
      rcases h with ⟨⟨v₁, rest₁⟩, hread, hlast⟩
      rcases ih hread with ⟨n, hn, rfl, rfl⟩
      cases rest₁ with
      | nil => cases hlast
      | cons c tail =>
          rw [go_succ, Option.bind_eq_some_iff] at hlast
          rcases hlast with ⟨d, hd, hrest⟩
          cases hrest
          rcases Text.asciiDigit?_eq_some hd with ⟨hsmall, rfl⟩
          refine ⟨n * 10 + d, by rw [Nat.pow_succ]; omega, by rw [Nat.pow_succ]; ring, ?_⟩
          have hdiv : (n * 10 + d) / 10 = n := by omega
          have hmod : (n * 10 + d) % 10 = d := by omega
          rw [places, hdiv, hmod, List.append_assoc, List.singleton_append]

/-- What a reader of digits takes: the places of a number. -/
theorem digits_eq_some_iff {w n : Nat} {cs rest : List Char} :
    digits w cs = some (n, rest) ↔ n < 10 ^ w ∧ cs = places w n ++ rest := by
  constructor
  · intro h
    rcases go_eq_some h with ⟨n, hn, rfl, hcs⟩
    rw [Nat.zero_mul, Nat.zero_add]
    exact ⟨hn, hcs⟩
  · rintro ⟨hn, rfl⟩
    exact digits_places hn rest

end Timestamp

end RecordGateway
