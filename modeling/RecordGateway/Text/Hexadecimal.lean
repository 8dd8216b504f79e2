/-!
# Hexadecimal Digits

Escapes of several formats name bytes and code points in hexadecimal. Readers
take digits of either case, writers use lower case and pad with zeros to the
width of the format.

## Main definitions

* `hexDigit?`: the value of a digit.
* `hexText`: a number in hexadecimal, to a given width.
-/

namespace RecordGateway

namespace Text

/-- The value of a hexadecimal digit. -/
def hexDigit? (c : Char) : Option Nat :=
  if '0' ≤ c ∧ c ≤ '9' then some (c.toNat - 0x30)
  else if 'a' ≤ c ∧ c ≤ 'f' then some (c.toNat - 0x57)
  else if 'A' ≤ c ∧ c ≤ 'F' then some (c.toNat - 0x37)
  else none

/-- A number in lower-case hexadecimal digits, padded with zeros to a width. -/
def hexText (width n : Nat) : String :=
  let digits := Nat.toDigits 16 n
  String.ofList (List.replicate (width - digits.length) '0' ++ digits)

end Text

end RecordGateway
