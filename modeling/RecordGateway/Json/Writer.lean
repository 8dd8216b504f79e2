import RecordGateway.Json.Basic

/-!
# JSON Text

The compact text of a value: no blanks, members in their order, every letter as
it is but for the quote, the backslash and control characters, which are
escaped, the commonest of them in two characters. A value that holds halves of
surrogate pairs has a text that holds them too.

## Main definitions

* `Json.write`: the text of a value.
-/

namespace RecordGateway

namespace Json

/-- A character inside a JSON string. -/
def writeChar (c : Char) : String :=
  if c == '"' then "\\\""
  else if c == '\\' then "\\\\"
  else if c == '\n' then "\\n"
  else if c == '\r' then "\\r"
  else if c == '\t' then "\\t"
  else if c.toNat = 0x8 then "\\b"
  else if c.toNat = 0xC then "\\f"
  else if c.toNat < 0x20 then "\\u" ++ Text.hexText 4 c.toNat
  else String.ofList [c]

/-- A letter inside a JSON string. -/
def writeLetter : Letter → List Letter
  | .char c => (LooseText.ofString (writeChar c)).letters
  | .half h => [.half h]

/-- A string in quotes. -/
def writeString (t : LooseText) : LooseText :=
  LooseText.ofString "\"" ++ ⟨t.letters.flatMap writeLetter⟩ ++ LooseText.ofString "\""

/-- Texts with commas between them, in a pair of brackets. -/
def enclose (opening closing : String) (parts : List LooseText) : LooseText :=
  LooseText.ofString opening ++ LooseText.intercalate "," parts ++ LooseText.ofString closing

mutual

/-- The compact text of a value. -/
def write : Json → LooseText
  | .null => "null"
  | .bool b => if b then "true" else "false"
  | .int n => LooseText.ofString (toString n)
  | .real x => LooseText.ofString x.text
  | .str t => writeString t
  | .arr items => enclose "[" "]" (writeItems items)
  | .obj members => enclose "\x7b" "\x7d" (writeMembers members)

/-- The texts of the items of an array. -/
def writeItems : List Json → List LooseText
  | [] => []
  | v :: rest => v.write :: writeItems rest

/-- The texts of the members of an object. -/
def writeMembers : Members → List LooseText
  | [] => []
  | (k, v) :: rest => (writeString k ++ LooseText.ofString ":" ++ v.write) :: writeMembers rest

end

end Json

end RecordGateway
