import RecordGateway.Number.Binary64

/-!
# Shortest Decimals

A binary64 number is printed with the fewest significant digits that read back
as the same number. The reals that round to a number form an interval around
it, whose ends belong to it when the significand is even. For one digit, two
digits and so on, the two decimals of that length next to the number are tried;
the first length with a hit wins, and of two hits the nearer.

Where the point goes is a decision of the format: from 0.0001 up to 16 places
before the point a number is written out, with `.0` after a whole one; beyond
that, in scientific form with a signed exponent of at least two digits.

## Main definitions

* `Interval`: the reals that round to a number.
* `shortest`: the digits and the decimal exponent of the shortest decimal.
* `Binary64.text`: the printed form.
-/

namespace RecordGateway

namespace Decimal

/-- The reals that round to a binary64 number, all over one denominator. -/
structure Interval where
  /-- The lower end. -/
  low : Nat
  /-- The number itself. -/
  value : Nat
  /-- The upper end. -/
  high : Nat
  /-- The common denominator. -/
  den : Nat
  /-- Whether the ends round to the number too. -/
  closed : Bool
  deriving DecidableEq, Repr

/-- The interval of a positive number. Below a power of two the numbers lie
    twice as close, so there the lower end is only a quarter of the spacing
    away. -/
def Interval.of (significand : Nat) (exponent : Int) : Interval :=
  let boundary := significand = Nat.pow 2 52 ∧ Binary64.minExponent < exponent
  let (scale, den) := Binary64.magnitude 1 (exponent - 2)
  let below := if boundary then 1 else 2
  { low := (4 * significand - below) * scale
    value := 4 * significand * scale
    high := (4 * significand + 2) * scale
    den := den
    closed := significand % 2 = 0 }

/-- Whether the decimal `n * 10 ^ e` lies in an interval. -/
def Interval.contains (i : Interval) (n : Nat) (e : Int) : Bool :=
  let up := Nat.pow 10 e.toNat
  let down := Nat.pow 10 (-e).toNat
  let x := n * up * i.den
  if i.closed then i.low * down ≤ x && x ≤ i.high * down
  else i.low * down < x && x < i.high * down

/-- The decimal exponent of the leading digit of `num / den`, searched upward
    from a bound below it. -/
def leadingExponent (num den : Nat) : Nat → Int → Int
  | 0, e => e
  | fuel + 1, e =>
    -- Is 10 ^ (e + 1) still at most the quotient?
    let next := e + 1
    if den * Nat.pow 10 next.toNat ≤ num * Nat.pow 10 (-next).toNat then
      leadingExponent num den fuel next
    else e

/-- The better of the two neighbours of a number among the decimals
    `n * 10 ^ e`, if one of them lies in its interval. -/
def Interval.neighbour? (i : Interval) (e : Int) : Option Nat :=
  let num := i.value * Nat.pow 10 (-e).toNat
  let den := i.den * Nat.pow 10 e.toNat
  let n := num / den
  let r := num % den
  match i.contains n e, i.contains (n + 1) e with
  | true, true => some (if 2 * r < den ∨ (2 * r = den ∧ n % 2 = 0) then n else n + 1)
  | true, false => some n
  | false, true => some (n + 1)
  | false, false => none

/-- Try ever finer decimals: the digits and exponent of the first hit. -/
def Interval.search (i : Interval) : Nat → Int → Nat × Int
  | 0, e => (i.value * Nat.pow 10 (-e).toNat / (i.den * Nat.pow 10 e.toNat), e)
  | fuel + 1, e =>
    match i.neighbour? e with
    | some n => (n, e)
    | none => i.search fuel (e - 1)

/-- The shortest decimal `n * 10 ^ e` that reads back as a positive number.
    Seventeen digits always do. -/
def shortest (significand : Nat) (exponent : Int) : Nat × Int :=
  let i := Interval.of significand exponent
  let start : Int := (exponent + Nat.log2 significand) * 30103 / 100000 - 2
  i.search 17 (leadingExponent i.value i.den 6 start)

/-- The digits of a positive decimal without trailing zeros, and the number of
    places before the point. -/
def places (n : Nat) (e : Int) : List Char × Int :=
  let ds := Nat.toDigits 10 n
  let trimmed := (ds.reverse.dropWhile (· == '0')).reverse
  (trimmed, ds.length + e)

/-- Digits written out around a point, `before` places in front of it. -/
def positional (ds : List Char) (before : Int) : List Char :=
  if before ≤ 0 then "0.".toList ++ List.replicate (-before).toNat '0' ++ ds
  else
    let k := before.toNat
    let whole := ds.take k ++ List.replicate (k - ds.length) '0'
    let rest := ds.drop k
    whole ++ '.' :: (if rest.isEmpty then ['0'] else rest)

/-- Digits in scientific form: one digit, the others after a point, and a
    signed exponent of at least two digits. -/
def scientific (ds : List Char) (before : Int) : List Char :=
  let e := before - 1
  let mantissa := match ds with
    | [] => ['0']
    | [d] => [d]
    | d :: rest => d :: '.' :: rest
  let exponentDigits := Nat.toDigits 10 e.natAbs
  let sign := if e < 0 then '-' else '+'
  mantissa ++ 'e' :: sign :: (List.replicate (2 - exponentDigits.length) '0' ++ exponentDigits)

/-- The digits of a positive decimal, written out from 0.0001 to below
    10 ^ 16 and in scientific form beyond. -/
def layout (ds : List Char) (before : Int) : List Char :=
  if -4 < before ∧ before ≤ 16 then positional ds before else scientific ds before

end Decimal

/-- The printed form of a binary64 number. -/
def Binary64.text : Binary64 → String
  | .nan => "nan"
  | .infinite negative => if negative then "-inf" else "inf"
  | .finite negative significand exponent =>
    let body :=
      if significand = 0 then "0.0".toList
      else
        let (n, e) := Decimal.shortest significand exponent
        let (ds, before) := Decimal.places n e
        Decimal.layout ds before
    String.ofList (if negative then '-' :: body else body)

end RecordGateway
