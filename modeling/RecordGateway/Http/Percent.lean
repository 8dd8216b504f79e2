import RecordGateway.Text.Hexadecimal
import RecordGateway.Text.Utf8

/-!
# Percent Escapes

In an address a byte may be written as a percent sign and two hexadecimal
digits. Reading turns escapes into bytes and takes the bytes as UTF-8, damaged
ones replaced. A percent sign without two digits after it stands for itself.
Characters beyond ASCII stand for themselves too, and escapes on their two sides
are never read together.

Writing escapes every byte of a character that is not allowed to stand.

## Main definitions

* `Percent.unescape`: the bytes that ASCII text with escapes stands for.
* `Percent.decode`: read text with escapes.
* `Percent.encode`: write text with escapes.
-/

namespace RecordGateway

namespace Percent

/-- Whether a character is ASCII. -/
def isAscii (c : Char) : Bool :=
  c.toNat < 128

/-- The byte of an ASCII character. -/
def byteOf (c : Char) : UInt8 :=
  UInt8.ofNat c.toNat

/-- The byte that two hexadecimal digits write. -/
def byte? (high low : Char) : Option UInt8 := do
  let h ← Text.hexDigit? high
  let l ← Text.hexDigit? low
  return UInt8.ofNat (h * 16 + l)

/-- The bytes that ASCII text with escapes stands for. -/
def unescape : List Char → Bytes
  | '%' :: high :: low :: rest =>
    match byte? high low with
    | some b => b :: unescape rest
    | none => byteOf '%' :: unescape (high :: low :: rest)
  | c :: rest => byteOf c :: unescape rest
  | [] => []

/-- Read text with escapes: each stretch of ASCII on its own, the rest as it
    is. -/
def decode (cs : List Char) : List Char :=
  (cs.splitBy fun a b => isAscii a == isAscii b).flatMap fun stretch =>
    if stretch.all isAscii then Text.decodeChars (unescape stretch) else stretch

/-- The characters that may stand in an address: letters, digits, four marks
    and the signs that have a meaning of their own. -/
def mayStand (c : Char) : Bool :=
  c.isAlphanum || "_.-~:/%#?=@[]!$&'()*+,;".toList.contains c

/-- The characters that may stand in the path of an address: not the two signs
    that would end it. -/
def mayStandInPath (c : Char) : Bool :=
  mayStand c && c ≠ '?' && c ≠ '#'

/-- A byte as an escape. -/
def escape (b : UInt8) : String :=
  let digits := (Text.hexText 2 b.toNat).map Char.toUpper
  "%" ++ digits

/-- Write text with escapes for the characters that may not stand. -/
def encode (mayStand : Char → Bool) (s : String) : String :=
  String.join (s.toList.map fun c =>
    if mayStand c then c.toString else String.join ((Text.encodeChar c).map escape))

end Percent

end RecordGateway
