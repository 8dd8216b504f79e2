import RecordGateway.Json.Basic
import RecordGateway.Number.Spelling

/-!
# Reading JSON

A text is read from left to right. The reader is strict about structure and
says what it expected and where, by the offset of the character; it is lenient
about numbers, of which it takes `NaN`, `Infinity` and `-Infinity`, and about
repeated names in an object, of which the last value counts.

Each part of the grammar is a function from the letters that are left, and
their offset, to a value and what is left after it. Containers nest, so the
reader of values carries fuel; every level takes a letter of its own and two
steps, so twice the length of the text is fuel enough. Beyond a certain depth
the reader gives up, whatever the text holds there.

Two escapes that follow each other and name the halves of a surrogate pair name
one character. A half that stands alone is a letter of its own.

## Main definitions

* `Json.Container`: what can be nested.
* `Json.Expectation`: what the reader missed.
* `Json.ReadError`: an expectation, and where it arose.
* `Json.maxDepth`: how deeply containers are read.
* `Json.read`: the value of a text, or why it has none.
-/

namespace RecordGateway

namespace Json

/-- What can be nested. -/
inductive Container where
  /-- An array. -/
  | array
  /-- An object. -/
  | object
  deriving DecidableEq, Repr

/-- The wording for a container that is nested too deeply. -/
def Container.tooDeepMessage (c : Container) : String :=
  let name := match c with
    | .array => "array"
    | .object => "object"
  "maximum recursion depth exceeded while decoding a JSON " ++ name ++ " from a unicode string"

/-- Why a text is no JSON. -/
inductive Expectation where
  /-- A value has to stand here. -/
  | value
  /-- The quoted name of a member has to stand here. -/
  | propertyName
  /-- A colon has to stand here. -/
  | colon
  /-- A comma or the end of the container has to stand here. -/
  | comma
  /-- The string that starts here has no end. -/
  | stringEnd
  /-- A control character stands in a string. -/
  | controlCharacter
  /-- A backslash is followed by no escape. -/
  | escape
  /-- Four hexadecimal digits and more text have to follow. -/
  | unicodeEscape
  /-- Something follows the value. -/
  | endOfText
  /-- The text begins with a byte-order mark. -/
  | noByteOrderMark
  /-- An integer has more digits than are read. -/
  | shorterInteger (digits : Nat)
  /-- A container is nested more deeply than is read. -/
  | lessNesting (container : Container)
  deriving DecidableEq, Repr

/-- What the reader missed, and the offset of the character where. -/
structure ReadError where
  /-- What was missed. -/
  expectation : Expectation
  /-- The offset, in characters. -/
  position : Nat
  deriving DecidableEq, Repr

/-- The wording of an expectation. -/
def Expectation.message : Expectation → String
  | .value => "Expecting value"
  | .propertyName => "Expecting property name enclosed in double quotes"
  | .colon => "Expecting ':' delimiter"
  | .comma => "Expecting ',' delimiter"
  | .stringEnd => "Unterminated string starting at"
  | .controlCharacter => "Invalid control character at"
  | .escape => "Invalid \\escape"
  | .unicodeEscape => "Invalid \\uXXXX escape"
  | .endOfText => "Extra data"
  | .noByteOrderMark => "Unexpected UTF-8 BOM (decode using utf-8-sig)"
  | .shorterInteger digits => VersionError.tooLongMessage digits
  | .lessNesting container => container.tooDeepMessage

/-- The greatest depth to which containers are read. It stands for a limit on
    calls that are open at once: a thousand, unless the program sets another, of
    which some are open before reading begins. How many are is not known to the
    reader, and 50 is a guess; observed is only that a depth of 61 is read and
    one of 3001 is not. Nothing that is proved depends on where between the two
    the bound lies. -/
def maxDepth : Nat := 950

namespace Reader

/-- The letters that are left, and the offset of the first of them. -/
structure Cursor where
  /-- The letters that are left. -/
  letters : List Letter
  /-- The offset of the first. -/
  offset : Nat

/-- Move past `n` letters. -/
def Cursor.advance (c : Cursor) (n : Nat) : Cursor :=
  ⟨c.letters.drop n, c.offset + n⟩

/-- White space between tokens. -/
def isSpace (c : Char) : Bool :=
  c == ' ' || c == '\t' || c == '\n' || c == '\r'

/-- Move past white space. -/
def Cursor.skipSpace (c : Cursor) : Cursor :=
  c.advance (c.letters.takeWhile (Letter.isOf isSpace)).length

/-- Refuse at a cursor. -/
def Cursor.refuse {α : Type} (c : Cursor) (e : Expectation) : Except ReadError (α × Cursor) :=
  .error ⟨e, c.offset⟩

/-- The value of a hexadecimal digit. -/
def hexDigit? (l : Letter) : Option Nat :=
  l.char?.bind Text.hexDigit?

/-- The number that the next four letters write in hexadecimal. -/
def hex4? : List Letter → Option Nat
  | a :: b :: c :: d :: _ => do
    let a ← hexDigit? a
    let b ← hexDigit? b
    let c ← hexDigit? c
    let d ← hexDigit? d
    return ((a * 16 + b) * 16 + c) * 16 + d
  | _ => none

/-- Read the hexadecimal digits after a backslash and `u`, of which the cursor
    stands at the `u`. More text has to follow them. -/
def hexEscape (c : Cursor) : Except ReadError Nat :=
  if (c.letters.drop 5).isEmpty then .error ⟨.unicodeEscape, c.offset⟩
  else match hex4? (c.letters.drop 1) with
    | some n => .ok n
    | none => .error ⟨.unicodeEscape, c.offset⟩

/-- Read an escape for a code point, of which the cursor stands at the `u`: the
    letter, and the number of letters of the escape from the `u` on. A first
    half of a surrogate pair takes a second half that follows it. -/
def unicodeEscape (c : Cursor) : Except ReadError (Letter × Nat) := do
  let n ← hexEscape c
  match (c.advance 5).letters with
  | .char '\\' :: .char 'u' :: _ =>
    if Half.isFirst n && !(c.letters.drop 11).isEmpty then
      let second := c.advance 6
      let m ← hexEscape second
      if Half.isSecond m then return (.char (Half.join n m), 11)
      else return (Letter.ofCode n, 5)
    else return (Letter.ofCode n, 5)
  | _ => return (Letter.ofCode n, 5)

/-- The character that a one-letter escape stands for. -/
def simpleEscape? (c : Char) : Option Char :=
  if c == '"' || c == '\\' || c == '/' then some c
  else if c == 'b' then some (Char.ofNat 0x8)
  else if c == 'f' then some (Char.ofNat 0xC)
  else if c == 'n' then some '\n'
  else if c == 'r' then some '\r'
  else if c == 't' then some '\t'
  else none

/-- Whether a letter has to be escaped in a string. -/
def isControl (c : Char) : Bool :=
  c.toNat < 0x20

/-- Read the rest of a string whose opening quote stands at offset `opened`.
    The fuel bounds the number of letters. -/
def stringRest (opened : Nat) : Nat → Cursor → Except ReadError (List Letter × Cursor)
  | 0, _ => .error ⟨.stringEnd, opened⟩
  | fuel + 1, c =>
    match c.letters with
    | [] => .error ⟨.stringEnd, opened⟩
    | .char '"' :: _ => .ok ([], c.advance 1)
    | [.char '\\'] => .error ⟨.stringEnd, opened⟩
    | .char '\\' :: .char 'u' :: _ => do
      let (letter, width) ← unicodeEscape (c.advance 1)
      let (rest, c) ← stringRest opened fuel (c.advance (width + 1))
      return (letter :: rest, c)
    | .char '\\' :: e :: _ =>
      match e.char?.bind simpleEscape? with
      | none => c.refuse .escape
      | some char => do
        let (rest, c) ← stringRest opened fuel (c.advance 2)
        return (.char char :: rest, c)
    | letter :: _ =>
      if letter.isOf isControl then c.refuse .controlCharacter
      else do
        let (rest, c) ← stringRest opened fuel (c.advance 1)
        return (letter :: rest, c)

/-- Read a string, of which the cursor stands at the opening quote. -/
def string (c : Cursor) : Except ReadError (LooseText × Cursor) := do
  let (letters, rest) ← stringRest c.offset (c.letters.length + 1) (c.advance 1)
  return (⟨letters⟩, rest)

/-- The digits of the fraction of a number: a point with a digit after it. -/
def fractionDigits : List Char → List Char
  | '.' :: cs => cs.takeWhile Text.isAsciiDigit
  | _ => []

/-- The sign, digits and width of an exponent; none unless a digit stands in it. -/
def exponentPart : List Char → Option (Bool × List Char × Nat)
  | c :: cs =>
    if c = 'e' ∨ c = 'E' then
      let (negative, body) := Number.splitSign cs
      let ds := body.takeWhile Text.isAsciiDigit
      if ds.isEmpty then none
      else some (negative, ds, 1 + (cs.length - body.length) + ds.length)
    else none
  | [] => none

/-- Whether a character may stand in a number. -/
def isOfNumber (c : Char) : Bool :=
  Text.isAsciiDigit c || c == '-' || c == '+' || c == '.' || c == 'e' || c == 'E'

/-- Read a number. Without fraction and exponent it is whole; a zero takes no
    digits after it. -/
def number (c : Cursor) : Except ReadError (Json × Cursor) :=
  let chars := (c.letters.takeWhile (Letter.isOf isOfNumber)).filterMap Letter.char?
  let (negative, body) := match chars with
    | '-' :: cs => (true, cs)
    | cs => (false, cs)
  let whole := match body with
    | '0' :: _ => ['0']
    | _ => body.takeWhile Text.isAsciiDigit
  if whole.isEmpty then c.refuse .value
  else
    let signWidth := if negative then 1 else 0
    let places := fractionDigits (body.drop whole.length)
    let fractionWidth := if places.isEmpty then 0 else places.length + 1
    let wholeWidth := signWidth + whole.length + fractionWidth
    match exponentPart (chars.drop wholeWidth) with
    | some (minus, ds, width) =>
      let e := Number.signed minus (Number.natOfChars ds)
      let x := Binary64.ofDecimal negative (Number.natOfChars (whole ++ places)) (e - places.length)
      .ok (.real x, c.advance (wholeWidth + width))
    | none =>
      if places.isEmpty then
        if Number.maxDigits < whole.length then
          .error ⟨.shorterInteger whole.length, c.offset⟩
        else
          .ok (.int (Number.signed negative (Number.natOfChars whole)), c.advance wholeWidth)
      else
        let x := Binary64.ofDecimal negative (Number.natOfChars (whole ++ places)) (-places.length)
        .ok (.real x, c.advance wholeWidth)

/-- The words that stand for a value. -/
def words : List (LooseText × Json) :=
  [("null", .null), ("true", .bool true), ("false", .bool false), ("NaN", .real .nan),
   ("Infinity", .real (.infinite false)), ("-Infinity", .real (.infinite true))]

/-- Read a word or a number. -/
def scalar (c : Cursor) : Except ReadError (Json × Cursor) :=
  match words.find? fun (word, _) => word.letters.isPrefixOf c.letters with
  | some (word, v) => .ok (v, c.advance word.letters.length)
  | none => number c

mutual

/-- Read a value, no white space before it, with containers nested to a depth at
    most. -/
def value : Nat → Nat → Cursor → Except ReadError (Json × Cursor)
  | 0, _, c => c.refuse .value
  | fuel + 1, depth, c =>
    match c.letters with
    | .char '"' :: _ => do
      let (s, c) ← string c
      return (.str s, c)
    | .char '[' :: _ =>
      match depth with
      | 0 => c.refuse (.lessNesting .array)
      | depth + 1 =>
        let inner := (c.advance 1).skipSpace
        match inner.letters with
        | .char ']' :: _ => .ok (.arr [], inner.advance 1)
        | _ => do
          let (items, c) ← items fuel depth inner
          return (.arr items, c)
    | .char '\x7b' :: _ =>
      match depth with
      | 0 => c.refuse (.lessNesting .object)
      | depth + 1 =>
        let inner := (c.advance 1).skipSpace
        match inner.letters with
        | .char '\x7d' :: _ => .ok (.obj [], inner.advance 1)
        | _ => do
          let (pairs, c) ← members fuel depth inner
          return (.obj (Entries.ofPairs pairs), c)
    | _ => scalar c

/-- Read the items of an array from the first on, with its closing bracket. -/
def items : Nat → Nat → Cursor → Except ReadError (List Json × Cursor)
  | 0, _, c => c.refuse .value
  | fuel + 1, depth, c => do
    let (v, c) ← value fuel depth c
    let c := c.skipSpace
    match c.letters with
    | .char ']' :: _ => return ([v], c.advance 1)
    | .char ',' :: _ =>
      let (rest, c) ← items fuel depth (c.advance 1).skipSpace
      return (v :: rest, c)
    | _ => c.refuse .comma

/-- Read the members of an object from the first on, with its closing brace. -/
def members : Nat → Nat → Cursor → Except ReadError (Members × Cursor)
  | 0, _, c => c.refuse .propertyName
  | fuel + 1, depth, c =>
    match c.letters with
    | .char '"' :: _ => do
      let (key, c) ← string c
      let c := c.skipSpace
      match c.letters with
      | .char ':' :: _ =>
        let (v, c) ← value fuel depth (c.advance 1).skipSpace
        let c := c.skipSpace
        match c.letters with
        | .char '\x7d' :: _ => return ([(key, v)], c.advance 1)
        | .char ',' :: _ =>
          let (rest, c) ← members fuel depth (c.advance 1).skipSpace
          return ((key, v) :: rest, c)
        | _ => c.refuse .comma
      | _ => c.refuse .colon
    | _ => c.refuse .propertyName

end

end Reader

/-- The value of a text that holds nothing else, and in front of which no
    byte-order mark is looked for. -/
def readUnmarked (t : LooseText) : Except ReadError Json := do
  let start := (Reader.Cursor.mk t.letters 0).skipSpace
  let (v, c) ← Reader.value (2 * t.letters.length + 2) maxDepth start
  let c := c.skipSpace
  if c.letters.isEmpty then return v else .error ⟨.endOfText, c.offset⟩

/-- The character that is a byte-order mark in front of a text. -/
def mark : Letter :=
  .char (Char.ofNat 0xFEFF)

/-- The value of a text that holds nothing else. A byte-order mark in front of
    it is refused. -/
def read (t : LooseText) : Except ReadError Json :=
  if t.letters.head? = some mark then .error ⟨.noByteOrderMark, 0⟩ else readUnmarked t

end Json

end RecordGateway
