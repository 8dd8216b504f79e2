/-!
# Blank Characters

Two sets of white space meet in this library. Numbers in settings and requests
are trimmed of the Unicode property *White_Space*; names, origins and
timestamps are trimmed of that set and of the four information separators
U+001C to U+001F as well. Neither set holds the zero-width space U+200B or the
byte-order mark.

Trimming works on lists of any letters, so that what is left is a contiguous
part of the input.

## Main definitions

* `isWhiteSpace`: the Unicode property.
* `isBlank`: white space or an information separator.
* `trimWhile`: drop a class of characters at both ends.
* `trim`: `trimWhile` for blanks, on strings.
-/

namespace RecordGateway

namespace Text

/-- The Unicode property White_Space. -/
def isWhiteSpace (c : Char) : Bool :=
  let n := c.toNat
  (0x9 ≤ n && n ≤ 0xD) || n == 0x20 || n == 0x85 || n == 0xA0 || n == 0x1680 ||
    (0x2000 ≤ n && n ≤ 0x200A) || n == 0x2028 || n == 0x2029 || n == 0x202F ||
    n == 0x205F || n == 0x3000

/-- White space, or one of the information separators U+001C to U+001F, which
    end a file, group, record or unit. -/
def isBlank (c : Char) : Bool :=
  isWhiteSpace c || (0x1C ≤ c.toNat && c.toNat ≤ 0x1F)

/-- Drop the longest run of letters of a class from both ends. -/
def trimWhile {α : Type} (p : α → Bool) (cs : List α) : List α :=
  ((cs.dropWhile p).reverse.dropWhile p).reverse

/-- Drop the blanks at both ends. -/
def trim (s : String) : String :=
  String.ofList (trimWhile isBlank s.toList)

end Text

end RecordGateway
