import RecordGateway.Number.Shortest

/-!
# Numbers

A setting such as a duration may be given as a whole number or with a fraction,
and is handed on in the form in which it was given.

## Main definitions

* `Number`: a whole number or a binary64 number.
-/

namespace RecordGateway

/-- A number in the form in which it was given. -/
inductive Number where
  /-- A whole number. -/
  | whole (n : Int)
  /-- A number with a fraction. -/
  | real (x : Binary64)
  deriving DecidableEq, Repr

end RecordGateway
