import RecordGateway.Text.Loose
import RecordGateway.Text.Printable

/-!
# Quoted Texts

Error messages show a text that was refused in quotes, so that blanks and
control characters in it can be seen. Single quotes are the rule; double quotes
are used when the text holds a single quote and no double one, which leaves
nothing to escape in the commonest case.

Inside, a backslash, the quote in use and the three usual blanks have short
escapes; any other unprintable character, and half of a surrogate pair, is
written by its code point in two, four or eight lower-case hexadecimal digits.
So a quoted text is a string, whatever text it shows.

## Main definitions

* `escapeChar`, `escapeLetter`: one letter inside quotes.
* `quoted`: a text in quotes.
-/

namespace RecordGateway

namespace Text

/-- A character as it stands between the quotes `q`. -/
def escapeChar (q c : Char) : String :=
  if c == '\\' then "\\\\"
  else if c == q then String.ofList ['\\', c]
  else if c == '\n' then "\\n"
  else if c == '\r' then "\\r"
  else if c == '\t' then "\\t"
  else if isPrintable c then String.ofList [c]
  else if c.toNat < 0x100 then "\\x" ++ hexText 2 c.toNat
  else if c.toNat < 0x10000 then "\\u" ++ hexText 4 c.toNat
  else "\\U" ++ hexText 8 c.toNat

/-- A letter as it stands between the quotes `q`. -/
def escapeLetter (q : Char) : Letter → String
  | .char c => escapeChar q c
  | .half h => "\\u" ++ hexText 4 h.code

/-- The quote that a text is put between. -/
def quoteFor (t : LooseText) : Char :=
  if t.letters.contains (.char '\'') && !t.letters.contains (.char '"') then '"' else '\''

/-- A text in quotes, unprintable letters escaped. -/
def quoted (t : LooseText) : String :=
  let q := quoteFor t
  String.ofList [q] ++ String.join (t.letters.map (escapeLetter q)) ++ String.ofList [q]

end Text

end RecordGateway
