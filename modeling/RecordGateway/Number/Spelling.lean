import RecordGateway.Number.Binary64
import RecordGateway.Text.Blank
import RecordGateway.Text.Digit
import RecordGateway.Text.Quoted

/-!
# Spelled Numbers

Three grammars for numbers in text. Settings and request fields share one for
integers and one for numbers with a fraction; the parts of a broker version
have an integer grammar of their own, which takes the digits of every script.

A field's integer may be grouped by underscores, may end in a point and zeros,
since `5.0` is a whole number, and may be padded: a zero in front may be followed
by any zeros and underscores before the number begins. Padding stands behind a
minus sign or before it, so `-0__5` and `0-5` are both minus five, but not on
both sides. Underscores in a field's number are dropped wherever they stand, as
long as none is first or last and no two stand together. White space around a
number is dropped too, but a number with a fraction is either grouped or set off
by white space, not both.

## Main definitions

* `Number.ungroup?`: digits with single underscores between them.
* `Number.dropGrouping?`: a text without its underscores.
* `Number.plainInteger`: the integer a text spells in plain form.
* `Number.plainForm?`: a field's integer in plain form.
* `Number.intOfField`: the integer a field spells, or why not.
* `Number.floatOfField?`: the number a field spells.
* `VersionPart.parse`: the integer a part of a version spells, or why not.
-/

namespace RecordGateway

namespace Number

/-- Take underscores out of a run of digits; each must stand between two
    digits, and there must be a digit. -/
def ungroup? (isDigit : Char → Bool) : List Char → Option (List Char)
  | [] => none
  | [c] => if isDigit c then some [c] else none
  | c :: d :: rest =>
    if isDigit c then
      if d = '_' then (ungroup? isDigit rest).map (c :: ·)
      else (ungroup? isDigit (d :: rest)).map (c :: ·)
    else none

/-- Split off a sign: whether it is a minus, and the rest. -/
def splitSign : List Char → Bool × List Char
  | '+' :: cs => (false, cs)
  | '-' :: cs => (true, cs)
  | cs => (false, cs)

/-- The number that ASCII digits write. -/
def natOfChars (ds : List Char) : Nat :=
  Text.natOfDigits (ds.map (·.toNat - 0x30))

/-- A natural with a sign. -/
def signed (negative : Bool) (n : Nat) : Int :=
  if negative then -(n : Int) else n

/-- Drop a point and the zeros after it, at least one. -/
def dropZeroFraction (cs : List Char) : List Char :=
  let whole := cs.takeWhile (· ≠ '.')
  match cs.dropWhile (· ≠ '.') with
  | _ :: zeros => if !zeros.isEmpty && zeros.all (· == '0') then whole else cs
  | [] => cs

/-- The greatest number of digits of an integer that is read from text. -/
def maxDigits : Nat := 4300

/-- The letters of a text without underscores; none if an underscore is last or
    two stand together. -/
def dropInnerGrouping? : List Char → Option (List Char)
  | [] => some []
  | ['_'] => none
  | '_' :: '_' :: _ => none
  | c :: rest => (dropInnerGrouping? rest).map fun cs => if c = '_' then cs else c :: cs

/-- The letters of a text without underscores; none if an underscore is first or
    last or two stand together. -/
def dropGrouping? : List Char → Option (List Char)
  | '_' :: _ => none
  | cs => dropInnerGrouping? cs

/-- Whether a character may stand in padding after the first. -/
def isPadding (c : Char) : Bool :=
  c = '0' ∨ c = '_'

/-- Whether a number may begin with a character after padding, or at once. -/
def mayBegin (c : Char) : Bool :=
  c ≠ '0' && (Text.isAsciiDigit c || c == '-')

/-- Drop the padding before a number. A number that is padding and nothing else,
    or before its point, keeps the last letter of it. -/
def dropPadding? (cs : List Char) : Option (List Char) :=
  if cs.head? = some '0' then
    let last := (cs.takeWhile isPadding).getLast?.toList
    match cs.dropWhile isPadding with
    | [] => some last
    | c :: rest =>
      if c = '.' then some (last ++ c :: rest)
      else if mayBegin c then some (c :: rest) else none
  else if cs.head?.any mayBegin then some cs else none

/-- Drop the padding of a field's integer, which stands behind the minus sign if
    the integer begins with one. -/
def dropSignedPadding? : List Char → Option (List Char)
  | '-' :: cs => (dropPadding? cs).map ('-' :: ·)
  | cs => dropPadding? cs

/-- A field's integer in plain form, if it can be brought there: without white
    space around it, sign of plus, padding, zero fraction and grouping. -/
def plainForm? (cs : List Char) : Option (List Char) :=
  let trimmed := Text.trimWhile Text.isWhiteSpace cs
  let unsigned := match trimmed with
    | '+' :: '-' :: _ => none
    | '+' :: rest => some rest
    | _ => some trimmed
  (unsigned.bind dropSignedPadding?).map fun cs =>
    let whole := dropZeroFraction cs
    (dropGrouping? whole).getD whole

end Number

/-- Why a text spells no integer that a field takes. -/
inductive IntegerFlaw where
  /-- The text spells no integer. -/
  | misspelt
  /-- The integer has more digits than are read. -/
  | tooLong
  deriving DecidableEq, Repr

namespace Number

/-- The integer that a text spells in plain form: a minus sign perhaps, and then
    digits, of which the first is a zero only if it is the only one. Too many
    digits are refused whatever follows them. -/
def plainInteger (cs : List Char) : Except IntegerFlaw Int :=
  let (negative, body) := match cs with
    | '-' :: ds => (true, ds)
    | ds => (false, ds)
  let ds := body.takeWhile Text.isAsciiDigit
  if ds.head? = some '0' then
    if body.length = 1 then .ok 0 else .error .misspelt
  else if maxDigits < ds.length then .error .tooLong
  else if ds.isEmpty || ds.length < body.length then .error .misspelt
  else .ok (signed negative (natOfChars ds))

/-- The integer that a field spells. A text in plain form is read as it is; only
    one that is misspelt is brought into plain form first. -/
def intOfField (s : String) : Except IntegerFlaw Int :=
  match plainInteger s.toList with
  | .error .misspelt =>
    match plainForm? s.toList with
    | some cs => plainInteger cs
    | none => .error .misspelt
  | result => result

/-- The exponent after the mantissa of a decimal; zero when there is none. -/
def exponent? : List Char → Option Int
  | [] => some 0
  | c :: cs =>
    if c = 'e' ∨ c = 'E' then
      let (negative, ds) := splitSign cs
      if !ds.isEmpty && ds.all Text.isAsciiDigit then some (signed negative (natOfChars ds))
      else none
    else none

/-- The number that an unsigned decimal spells: digits with a point among,
    before or after them, and perhaps an exponent. -/
def decimal? (negative : Bool) (cs : List Char) : Option Binary64 :=
  let whole := cs.takeWhile Text.isAsciiDigit
  let rest := cs.dropWhile Text.isAsciiDigit
  let (places, rest) := match rest with
    | '.' :: after => (after.takeWhile Text.isAsciiDigit, after.dropWhile Text.isAsciiDigit)
    | _ => ([], rest)
  if (whole ++ places).isEmpty then none
  else (exponent? rest).map fun e =>
    Binary64.ofDecimal negative (natOfChars (whole ++ places)) (e - places.length)

/-- The number that a text spells: a decimal, or the name of an infinity or of
    not-a-number in any case, with a sign. -/
def float? (cs : List Char) : Option Binary64 :=
  let (negative, body) := splitSign cs
  let word := String.ofList (body.map Char.toLower)
  if word = "inf" ∨ word = "infinity" then some (.infinite negative)
  else if word = "nan" then some .nan
  else decimal? negative body

/-- The number that a field spells: with white space around it or grouped. -/
def floatOfField? (s : String) : Option Binary64 :=
  (float? (Text.trimWhile Text.isWhiteSpace s.toList)).or
    ((dropGrouping? s.toList).bind float?)

end Number

/-- Why a part of a version is no integer. -/
inductive VersionError where
  /-- The part does not spell an integer. -/
  | notAnInteger (part : LooseText)
  /-- The part has more digits than are read. -/
  | tooManyDigits (count : Nat)
  deriving DecidableEq, Repr

namespace VersionError

/-- The wording for an integer with too many digits. -/
def tooLongMessage (count : Nat) : String :=
  "Exceeds the limit (" ++ toString Number.maxDigits ++
    " digits) for integer string conversion: value has " ++ toString count ++
    " digits; use sys.set_int_max_str_digits() to increase the limit"

/-- The greatest length of a part as a message shows it, quotes included. -/
def maxShown : Nat := 200

/-- The wording of a version error. -/
def message : VersionError → String
  | .notAnInteger part =>
    "invalid literal for int() with base 10: " ++
      String.ofList ((Text.quoted part).toList.take maxShown)
  | .tooManyDigits count => tooLongMessage count

end VersionError

/-- Whether a character may stand in a run of digits. -/
def VersionPart.isOfRun (c : Char) : Bool :=
  Text.isDecimalDigit c || c == '_'

/-- The integer that a part of a version spells: white space around it is
    dropped and the digits may be of any script. The number of digits is looked
    at before what follows them. Half of a surrogate pair is neither white space
    nor of a number, and no more are the characters shown for it. -/
def VersionPart.parse (part : LooseText) : Except VersionError Int :=
  let (negative, body) := Number.splitSign (Text.trimWhile Text.isWhiteSpace part.toString.toList)
  match Number.ungroup? Text.isDecimalDigit (body.takeWhile isOfRun) with
  | none => .error (.notAnInteger part)
  | some ds =>
    if Number.maxDigits < ds.length then .error (.tooManyDigits ds.length)
    else if !(body.dropWhile isOfRun).isEmpty then .error (.notAnInteger part)
    else .ok (Number.signed negative
      (Text.natOfDigits (ds.map fun d => (Text.decimalDigit? d).getD 0)))

end RecordGateway
