import RecordGateway.Json.Reader
import RecordGateway.Text.Utf8

/-!
# JSON in Bytes

JSON may come in UTF-8, UTF-16 or UTF-32, with or without a byte-order mark.
Without one the encoding shows in the first four bytes, because the first two
characters of a JSON text are ASCII: where zero bytes stand tells the width of
a character and the order of its bytes.

Halves of surrogate pairs are let through in all three encodings, each as a
letter of its own; only in UTF-16 do two of them make a character.

## Main definitions

* `Encoding.detect`: the encoding of a JSON text in bytes.
* `Encoding.decode?`: the letters of bytes in an encoding.
* `Json.decodeBytes?`: the text of JSON in bytes.
-/

namespace RecordGateway

/-- How characters are laid out in bytes. -/
inductive Encoding where
  /-- UTF-8. -/
  | utf8
  /-- UTF-16. -/
  | utf16 (bigEndian : Bool)
  /-- UTF-32. -/
  | utf32 (bigEndian : Bool)
  deriving DecidableEq, Repr

namespace Encoding

/-- The encoding of a JSON text in bytes, and the number of bytes of its
    byte-order mark. -/
def detect (bs : Bytes) : Encoding × Nat :=
  match bs.map UInt8.toNat with
  | 0x00 :: 0x00 :: 0xFE :: 0xFF :: _ => (.utf32 true, 4)
  | 0xFF :: 0xFE :: 0x00 :: 0x00 :: _ => (.utf32 false, 4)
  | 0xFE :: 0xFF :: _ => (.utf16 true, 2)
  | 0xFF :: 0xFE :: _ => (.utf16 false, 2)
  | 0xEF :: 0xBB :: 0xBF :: _ => (.utf8, 3)
  | a :: b :: c :: d :: _ =>
    if a = 0 then (if b = 0 then .utf32 true else .utf16 true, 0)
    else if b = 0 then (if c = 0 ∧ d = 0 then .utf32 false else .utf16 false, 0)
    else (.utf8, 0)
  | [a, b] =>
    if a = 0 then (.utf16 true, 0) else if b = 0 then (.utf16 false, 0) else (.utf8, 0)
  | _ => (.utf8, 0)

/-- Join bytes into units of two bytes; none if a byte is left over. -/
def units16? (bigEndian : Bool) : Bytes → Option (List Nat)
  | [] => some []
  | [_] => none
  | a :: b :: rest =>
    let unit := if bigEndian then a.toNat * 256 + b.toNat else b.toNat * 256 + a.toNat
    (units16? bigEndian rest).map (unit :: ·)

/-- Join bytes into units of four bytes; none if bytes are left over. -/
def units32? (bigEndian : Bool) : Bytes → Option (List Nat)
  | [] => some []
  | a :: b :: c :: d :: rest =>
    let join := fun (w x y z : UInt8) => ((w.toNat * 256 + x.toNat) * 256 + y.toNat) * 256 + z.toNat
    let unit := if bigEndian then join a b c d else join d c b a
    (units32? bigEndian rest).map (unit :: ·)
  | _ => none

/-- The letter of a code point; none beyond the last one. -/
def letter? (n : Nat) : Option Letter :=
  if n ≤ 0x10FFFF then some (Letter.ofCode n) else none

/-- The letters of UTF-16 units, surrogate pairs joined. -/
def ofUnits16 : List Nat → List Letter
  | [] => []
  | [n] => [Letter.ofCode n]
  | n :: m :: rest =>
    if Half.isFirst n && Half.isSecond m then .char (Half.join n m) :: ofUnits16 rest
    else Letter.ofCode n :: ofUnits16 (m :: rest)

/-- Whether three bytes are the form that UTF-8 would give to half of a
    surrogate pair. -/
def areHalf (a b c : UInt8) : Bool :=
  a == 0xED && 0xA0 ≤ b && b ≤ 0xBF && 0x80 ≤ c && c ≤ 0xBF

/-- The half in its three bytes. -/
def halfOf (b c : UInt8) : Letter :=
  Letter.ofCode (0xD000 + (b.toNat - 0x80) * 64 + (c.toNat - 0x80))

/-- The letters of UTF-8, halves of surrogate pairs included, from a state of
    the decoder on. -/
def ofUtf8 (d : Text.Decoder) : Bytes → Option (List Letter)
  | [] => if d = .start then some [] else none
  | a :: b :: c :: rest =>
    if d = .start ∧ areHalf a b c then (ofUtf8 .start rest).map (halfOf b c :: ·)
    else match d.step a.toNat with
      | ([], next) => ofUtf8 next (b :: c :: rest)
      | ([some char], next) => (ofUtf8 next (b :: c :: rest)).map (.char char :: ·)
      | _ => none
  | a :: rest =>
    match d.step a.toNat with
    | ([], next) => ofUtf8 next rest
    | ([some char], next) => (ofUtf8 next rest).map (.char char :: ·)
    | _ => none

/-- The letters of bytes in an encoding, if they are well formed but for halves
    of surrogate pairs. -/
def decode? : Encoding → Bytes → Option (List Letter)
  | .utf8, bs => ofUtf8 .start bs
  | .utf16 bigEndian, bs => (units16? bigEndian bs).map ofUnits16
  | .utf32 bigEndian, bs => do
    let units ← units32? bigEndian bs
    units.mapM letter?

end Encoding

/-- The text of JSON in bytes, if they are well formed in the encoding that
    their beginning shows. -/
def Json.decodeBytes? (bs : Bytes) : Option LooseText :=
  let (encoding, mark) := Encoding.detect bs
  (encoding.decode? (bs.drop mark)).map LooseText.mk

end RecordGateway
