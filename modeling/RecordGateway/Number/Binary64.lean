/-!
# Binary64 Numbers

Numbers with a fraction are IEEE 754 binary64 values. They are kept here as
exact data, a sign, an integer significand and a power of two, so that
rounding, comparison and printing are integer arithmetic and open to proof.

A decimal text is read by one rounding of its exact value: the nearest binary64
number, the even one of two equally near. The exponent of the text may be
huge, so a magnitude that is certain to overflow or to vanish is decided from
its decimal order before any power of ten is formed.

## Main definitions

* `Binary64`: not a number, an infinity, or a finite number.
* `Binary64.ofRatio`: the number nearest to a quotient of naturals.
* `Binary64.ofDecimal`: the number nearest to a decimal.
* `Binary64.isNonnegative`: at least zero, which not-a-number is not.
* `Binary64.toInt?`: the integer that a number equals, if it equals one.
-/

namespace RecordGateway

/-- A binary64 number. A finite one is `significand * 2 ^ exponent` with a
    significand below `2 ^ 53` and an exponent of at least -1074; it has
    53 bits unless the exponent is least. -/
inductive Binary64 where
  /-- Not a number. -/
  | nan
  /-- An infinity. -/
  | infinite (negative : Bool)
  /-- A finite number, zero of either sign included. -/
  | finite (negative : Bool) (significand : Nat) (exponent : Int)
  deriving DecidableEq, Repr

namespace Binary64

/-- The least exponent of a finite number. -/
def minExponent : Int := -1074

/-- The greatest exponent of a finite number. -/
def maxExponent : Int := 971

/-- One more than the greatest significand. -/
def significandLimit : Nat := Nat.pow 2 53

/-- Zero. -/
def zero (negative : Bool) : Binary64 :=
  .finite negative 0 minExponent

/-- `num / den` rounded to the nearest natural, a half to the even one. -/
def roundDiv (num den : Nat) : Nat :=
  let q := num / den
  let r := num % den
  if 2 * r < den then q
  else if den < 2 * r then q + 1
  else if q % 2 = 0 then q else q + 1

/-- The greatest `e` with `2 ^ e ≤ num / den`, for positive `num` and `den`. -/
def floorLog2 (num den : Nat) : Int :=
  let e : Int := (Nat.log2 num : Int) - Nat.log2 den
  -- The quotient of the leading powers is off by at most one.
  if 0 ≤ e then
    if den * Nat.pow 2 e.toNat ≤ num then e else e - 1
  else
    if den ≤ num * Nat.pow 2 (-e).toNat then e else e - 1

/-- The number nearest to `num / den`. -/
def ofRatio (negative : Bool) (num den : Nat) : Binary64 :=
  if num = 0 then zero negative
  else
    let e := max (floorLog2 num den - 52) minExponent
    let m :=
      if 0 ≤ e then roundDiv num (den * Nat.pow 2 e.toNat)
      else roundDiv (num * Nat.pow 2 (-e).toNat) den
    -- Rounding up may carry into a 54th bit.
    let (m, e) := if m = significandLimit then (m / 2, e + 1) else (m, e)
    if maxExponent < e then .infinite negative else .finite negative m e

/-- The number nearest to `digits * 10 ^ exponent`. -/
def ofDecimal (negative : Bool) (digits : Nat) (exponent : Int) : Binary64 :=
  let order : Int := (Nat.toDigits 10 digits).length + exponent
  if digits = 0 ∨ order < -400 then zero negative
  else if 400 < order then .infinite negative
  else if 0 ≤ exponent then ofRatio negative (digits * Nat.pow 10 exponent.toNat) 1
  else ofRatio negative digits (Nat.pow 10 (-exponent).toNat)

/-- The number nearest to an integer. -/
def ofInt (n : Int) : Binary64 :=
  ofRatio (n < 0) n.natAbs 1

/-- At least zero. Both zeros are; not-a-number is not. -/
def isNonnegative : Binary64 → Bool
  | .nan => false
  | .infinite negative => !negative
  | .finite negative significand _ => !negative || significand == 0

/-- Neither an infinity nor not-a-number. -/
def isFinite : Binary64 → Bool
  | .finite .. => true
  | _ => false

/-- The magnitude of a finite number as a quotient of naturals. -/
def magnitude (significand : Nat) (exponent : Int) : Nat × Nat :=
  if 0 ≤ exponent then (significand * Nat.pow 2 exponent.toNat, 1)
  else (significand, Nat.pow 2 (-exponent).toNat)

/-- The integer that a finite number equals, if it has no fractional part. -/
def toInt? : Binary64 → Option Int
  | .finite negative significand exponent =>
    let (num, den) := magnitude significand exponent
    if num % den = 0 then some (if negative then -(num / den : Nat) else (num / den : Nat))
    else none
  | _ => none

end Binary64

end RecordGateway
