import RecordGateway.Text.Blank
import RecordGateway.Text.Hexadecimal
import RecordGateway.Text.Split
import RecordGateway.Text.Utf8

/-!
# Loose Texts

JSON can name code points that are no characters: the halves of surrogate pairs,
by an escape that stands alone. A text read from JSON may therefore hold such
halves beside characters. It can be counted, compared and shown in quotes like
any other text, but it has no UTF-8 form, and that is found out only when one is
needed.

A string is a loose text without halves, and every loose text without halves is
a string. So what is said of strings carries over, and the only new question is
where the first half stands.

## Main definitions

* `Half`: half of a surrogate pair.
* `Letter`: a character or a half.
* `LooseText`: a text of letters.
* `LooseText.ofString`, `LooseText.toString?`: strings as loose texts, and back.
* `LooseText.toString`: the nearest string, halves replaced.
* `LooseText.trim`, `LooseText.pieces`: a text without blanks around it, and its
  pieces between separators.
* `LooseText.encode`: the UTF-8 form, or the first halves that have none.

## Theorems

* `toString?_ofString`, `toString_ofString`: a string comes back.
* `encode_ofString`: a string has its UTF-8 form.
-/

namespace RecordGateway

/-- Half of a surrogate pair: a code point from U+D800 to U+DFFF. -/
structure Half where
  /-- Its distance from U+D800. -/
  index : Fin 0x800
  deriving DecidableEq, Repr

namespace Half

/-- The code point of a half. -/
def code (h : Half) : Nat :=
  0xD800 + h.index.val

/-- The half with a code point, if it is one. -/
def ofCode? (n : Nat) : Option Half :=
  if h : 0xD800 ≤ n ∧ n - 0xD800 < 0x800 then some ⟨⟨n - 0xD800, h.2⟩⟩ else none

/-- Whether a code point is the first half of a pair. -/
def isFirst (n : Nat) : Bool :=
  0xD800 ≤ n && n ≤ 0xDBFF

/-- Whether a code point is the second half of a pair. -/
def isSecond (n : Nat) : Bool :=
  0xDC00 ≤ n && n ≤ 0xDFFF

/-- The character that two halves make together. -/
def join (first second : Nat) : Char :=
  Char.ofNat (0x10000 + (first - 0xD800) * 0x400 + (second - 0xDC00))

end Half

/-- A letter of a loose text. -/
inductive Letter where
  /-- A character. -/
  | char (c : Char)
  /-- Half of a surrogate pair. -/
  | half (h : Half)
  deriving DecidableEq, Repr

namespace Letter

/-- The letter with a code point, up to the last one. -/
def ofCode (n : Nat) : Letter :=
  match Half.ofCode? n with
  | some h => .half h
  | none => .char (Char.ofNat n)

/-- The character that a letter is, if it is one. -/
def char? : Letter → Option Char
  | .char c => some c
  | .half _ => none

/-- Whether a letter is a half. -/
def isHalf : Letter → Bool
  | .char _ => false
  | .half _ => true

/-- Whether a letter is a character of a class. -/
def isOf (p : Char → Bool) : Letter → Bool
  | .char c => p c
  | .half _ => false

/-- The characters that stand for a letter where halves cannot be shown: a half
    as the three replacements that a decoder makes of its three bytes. -/
def shown : Letter → List Char
  | .char c => [c]
  | .half _ => List.replicate 3 Text.replacement

end Letter

/-- A text of characters and halves. -/
structure LooseText where
  /-- The letters, in order. -/
  letters : List Letter
  deriving DecidableEq, Repr

namespace LooseText

/-- A string as a loose text. -/
def ofString (s : String) : LooseText :=
  ⟨s.toList.map .char⟩

instance : Coe String LooseText := ⟨ofString⟩

instance : Append LooseText := ⟨fun s t => ⟨s.letters ++ t.letters⟩⟩

/-- The string that a loose text is, if it holds no half. -/
def toString? (t : LooseText) : Option String :=
  (t.letters.mapM Letter.char?).map String.ofList

/-- The string nearest to a loose text: the same, but for its halves. -/
def toString (t : LooseText) : String :=
  String.ofList (t.letters.flatMap Letter.shown)

/-- Join texts with a text between each two. -/
def intercalate (between : LooseText) : List LooseText → LooseText
  | [] => ⟨[]⟩
  | [t] => t
  | t :: rest => ⟨t.letters ++ between.letters ++ (intercalate between rest).letters⟩

/-- Drop the blanks at both ends; a half is no blank. -/
def trim (t : LooseText) : LooseText :=
  ⟨Text.trimWhile (Letter.isOf Text.isBlank) t.letters⟩

/-- The texts between the occurrences of a character. -/
def pieces (sep : Char) (t : LooseText) : List LooseText :=
  (Text.splitOn (.char sep) t.letters).map LooseText.mk

/-- The first halves of a text that stand side by side, which have no UTF-8
    form. -/
structure Unencodable where
  /-- The offset of the first, in letters. -/
  position : Nat
  /-- The first. -/
  half : Half
  /-- How many they are, at least one. -/
  count : Nat
  deriving DecidableEq, Repr

/-- The wording for halves: a single one is shown, several are only located. -/
def Unencodable.message (e : Unencodable) : String :=
  let place :=
    if e.count ≤ 1 then
      "character '\\u" ++ Text.hexText 4 e.half.code ++ "' in position " ++ e.position.repr
    else
      "characters in position " ++ e.position.repr ++ "-" ++ (e.position + e.count - 1).repr
  "'utf-8' codec can't encode " ++ place ++ ": surrogates not allowed"

/-- The first halves among letters, of which the first stands at `offset`. -/
def unencodableFrom (offset : Nat) : List Letter → Option Unencodable
  | [] => none
  | .char _ :: rest => unencodableFrom (offset + 1) rest
  | .half h :: rest => some ⟨offset, h, 1 + (rest.takeWhile Letter.isHalf).length⟩

/-- The first halves of a text, if it holds any. -/
def unencodable? (t : LooseText) : Option Unencodable :=
  unencodableFrom 0 t.letters

/-- The UTF-8 form of a text, or the first halves that have none. -/
def encode (t : LooseText) : Except Unencodable Bytes :=
  match t.unencodable? with
  | some e => .error e
  | none => .ok (Text.encode t.toString)

/-- A string comes back from its loose text. -/
theorem toString?_ofString (s : String) : (ofString s).toString? = some s := by
  have h : ∀ cs : List Char, (cs.map Letter.char).mapM Letter.char? = some cs := by
    intro cs
    induction cs with
    | nil => rfl
    | cons c cs ih => simp [Letter.char?, ih]
  simp [ofString, toString?, h]

/-- A string is the string nearest to its loose text. -/
theorem toString_ofString (s : String) : (ofString s).toString = s := by
  have h : ∀ cs : List Char, (cs.map Letter.char).flatMap Letter.shown = cs := by
    intro cs
    induction cs with
    | nil => rfl
    | cons c cs ih => simp [Letter.shown, ih]
  simp [ofString, toString, h]

/-- Characters hold no half. -/
theorem unencodableFrom_map_char (offset : Nat) (cs : List Char) :
    unencodableFrom offset (cs.map Letter.char) = none := by
  induction cs generalizing offset with
  | nil => rfl
  | cons c cs ih => exact ih (offset + 1)

/-- A string has its UTF-8 form. -/
theorem encode_ofString (s : String) : (ofString s).encode = .ok (Text.encode s) := by
  have h : (ofString s).unencodable? = none := unencodableFrom_map_char 0 s.toList
  simp [encode, h, toString_ofString]

end LooseText

end RecordGateway
