/-!
# UTF-8

Keys, values and header values travel as bytes. Encoding is total. Decoding
is total too: each maximal ill-formed part, that is a byte that starts no
character or the longest beginning of a character that its next byte does not
continue, becomes one U+FFFD, and the byte after it is read afresh. So damage
stays where it is, and well-formed text around it survives.

The decoder is a machine that takes one byte at a time. Between characters it
remembers nothing; inside one it remembers how many bytes are owed, the range
in which the next must lie and the bits read so far. Only the second byte has a
range narrower than a continuation byte's: that is what rules out overlong
forms, surrogates and code points above U+10FFFF. A byte outside the range
closes the ill-formed part and is then taken by the machine in its first state,
which always makes progress.

## Main definitions

* `Bytes`: a byte string.
* `encode`: the UTF-8 form of a text.
* `Decoder`: the machine, with `Decoder.step` and `Decoder.finish`.
* `decode`: the text of a byte string, damage replaced.
* `decodeStrict`: the text of a well-formed byte string, or where it breaks.
-/

namespace RecordGateway

/-- A byte string. -/
abbrev Bytes := List UInt8

namespace Text

/-- The UTF-8 form of one character: one to four bytes, six bits of the code
    point in each byte after the first. -/
def encodeChar (c : Char) : Bytes :=
  let n := c.toNat
  if n < 0x80 then [UInt8.ofNat n]
  else if n < 0x800 then
    [UInt8.ofNat (0xC0 + n / 64), UInt8.ofNat (0x80 + n % 64)]
  else if n < 0x10000 then
    [UInt8.ofNat (0xE0 + n / 4096), UInt8.ofNat (0x80 + n / 64 % 64),
      UInt8.ofNat (0x80 + n % 64)]
  else
    [UInt8.ofNat (0xF0 + n / 262144), UInt8.ofNat (0x80 + n / 4096 % 64),
      UInt8.ofNat (0x80 + n / 64 % 64), UInt8.ofNat (0x80 + n % 64)]

/-- The UTF-8 form of a text. -/
def encode (s : String) : Bytes :=
  s.toList.flatMap encodeChar

/-- Where the decoder stands between two bytes. -/
inductive Decoder where
  /-- Between characters. -/
  | start
  /-- Inside a character: `owed` bytes are missing, the next must lie in
      `low` to `high`, and `bits` holds the code point read so far. -/
  | inside (owed low high bits : Nat)
  deriving DecidableEq, Repr

/-- The stand-in for an ill-formed part. -/
def replacement : Char := Char.ofNat 0xFFFD

namespace Decoder

/-- Take a byte between characters. The list holds what the byte completes:
    a character, or `none` for a byte that starts none. -/
def first (b : Nat) : List (Option Char) × Decoder :=
  if b < 0x80 then ([some (Char.ofNat b)], .start)
  else if 0xC2 ≤ b ∧ b ≤ 0xDF then ([], .inside 1 0x80 0xBF (b - 0xC0))
  else if b = 0xE0 then ([], .inside 2 0xA0 0xBF 0)
  else if b = 0xED then ([], .inside 2 0x80 0x9F 0xD)
  else if 0xE1 ≤ b ∧ b ≤ 0xEF then ([], .inside 2 0x80 0xBF (b - 0xE0))
  else if b = 0xF0 then ([], .inside 3 0x90 0xBF 0)
  else if b = 0xF4 then ([], .inside 3 0x80 0x8F 4)
  else if 0xF1 ≤ b ∧ b ≤ 0xF3 then ([], .inside 3 0x80 0xBF (b - 0xF0))
  else ([none], .start)

/-- Take a byte. A byte that does not continue the character at hand ends an
    ill-formed part and starts afresh. -/
def step : Decoder → Nat → List (Option Char) × Decoder
  | .start, b => first b
  | .inside owed low high bits, b =>
    if low ≤ b ∧ b ≤ high then
      let bits := bits * 64 + (b - 0x80)
      if owed ≤ 1 then ([some (Char.ofNat bits)], .start)
      else ([], .inside (owed - 1) 0x80 0xBF bits)
    else
      let (out, next) := first b
      (none :: out, next)

/-- What is left when the bytes end: a character cut short is ill-formed. -/
def finish : Decoder → List (Option Char)
  | .start => []
  | .inside .. => [none]

/-- The characters and ill-formed parts of a byte string, in order. -/
def run : Decoder → Bytes → List (Option Char)
  | d, [] => d.finish
  | d, b :: bs =>
    let (out, next) := d.step b.toNat
    out ++ run next bs

end Decoder

/-- The characters of a byte string, one U+FFFD for each ill-formed part. -/
def decodeChars (bs : Bytes) : List Char :=
  (Decoder.start.run bs).map (·.getD replacement)

/-- The text of a byte string, one U+FFFD for each ill-formed part. -/
def decode (bs : Bytes) : String :=
  String.ofList (decodeChars bs)

/-- Why a byte string stops being UTF-8. -/
inductive IllFormed.Reason where
  /-- The byte starts no character. -/
  | startByte
  /-- A byte does not continue the character at hand. -/
  | continuationByte
  /-- The bytes end inside a character. -/
  | endOfData
  deriving DecidableEq, Repr

/-- The first ill-formed part of a byte string: where it starts, the bytes it
    spans and what is wrong. -/
structure IllFormed where
  /-- The offset of its first byte. -/
  position : Nat
  /-- Its first byte. -/
  byte : Nat
  /-- The number of bytes it spans, at least one. -/
  length : Nat
  /-- What is wrong. -/
  reason : IllFormed.Reason
  deriving DecidableEq, Repr

namespace IllFormed

/-- The wording of a reason. -/
def Reason.message : Reason → String
  | .startByte => "invalid start byte"
  | .continuationByte => "invalid continuation byte"
  | .endOfData => "unexpected end of data"

/-- The wording of an ill-formed part: a single byte is shown, several are
    only located. -/
def message (e : IllFormed) : String :=
  let place :=
    if e.length ≤ 1 then
      "byte 0x" ++ hex e.byte ++ " in position " ++ toString e.position
    else
      "bytes in position " ++ toString e.position ++ "-" ++
        toString (e.position + e.length - 1)
  "'utf-8' codec can't decode " ++ place ++ ": " ++ e.reason.message
where
  /-- Two lower-case hexadecimal digits. -/
  hex (b : Nat) : String :=
    String.ofList [Nat.digitChar (b / 16), Nat.digitChar (b % 16)]

end IllFormed

/-- Read bytes until they end or break. `opened` holds the offset and first
    byte of the character at hand, `offset` that of the next byte. -/
def decodeStrictFrom (d : Decoder) (opened : Nat × Nat) (offset : Nat) :
    Bytes → Except IllFormed (List Char)
  | [] =>
    match d with
    | .start => .ok []
    | .inside .. => .error ⟨opened.1, opened.2, offset - opened.1, .endOfData⟩
  | b :: bs =>
    let opened := if d = .start then (offset, b.toNat) else opened
    match d.step b.toNat with
    | ([], next) => decodeStrictFrom next opened (offset + 1) bs
    | (some c :: _, next) =>
      (decodeStrictFrom next opened (offset + 1) bs).map (c :: ·)
    | (none :: _, _) =>
      if d = .start then .error ⟨offset, b.toNat, 1, .startByte⟩
      else .error ⟨opened.1, opened.2, offset - opened.1, .continuationByte⟩

/-- The text of a well-formed byte string, or its first ill-formed part. -/
def decodeStrict (bs : Bytes) : Except IllFormed String :=
  (decodeStrictFrom .start (0, 0) 0 bs).map String.ofList

end Text

end RecordGateway
