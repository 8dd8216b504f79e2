import RecordGateway.Entries
import RecordGateway.Text.Loose

/-!
# Environment Files

An environment file gives variables one after another, as lines `NAME=VALUE`. A
line may begin with the word `export`, a name may stand in single quotes, and
blanks may surround the name and the equals sign. A line that begins with `#`,
and the rest of a line after a value, blanks and `#`, is a comment. A name
without an equals sign stands for a variable without a value.

A value in quotes may hold anything, newlines included, with a few escapes; a
backslash protects the character after it, so the value ends at the first quote
that is not protected. A line that does not follow the rules is skipped. A
byte-order mark in front of the file is no part of it.

A value may mention variables between a dollar sign with an opening brace and a
closing brace, perhaps with a default after a colon and a hyphen. They stand for
the value that the variable has by then, in the file or else in the environment.
A file is made of characters, but what the environment holds need not be, so the
final values are loose texts.

## Main definitions

* `Dotenv.bindings`: the names and values of a file, in order.
* `Dotenv.expand`: a value with the variables that it mentions replaced.
* `Dotenv.assignments`: the variables that a file sets, with their final values.
-/

namespace RecordGateway

namespace Dotenv

/-- A blank that does not end a line. -/
def isInlineBlank (c : Char) : Bool :=
  Text.isBlank c && c ≠ '\n'

/-- Make every line end in a line feed. -/
def unifyNewlines : List Char → List Char
  | '\r' :: '\n' :: cs => '\n' :: unifyNewlines cs
  | '\r' :: cs => '\n' :: unifyNewlines cs
  | c :: cs => c :: unifyNewlines cs
  | [] => []

/-- Drop a byte-order mark. -/
def dropMark (cs : List Char) : List Char :=
  if cs.head? = some (Char.ofNat 0xFEFF) then cs.drop 1 else cs

/-- Drop blanks that do not end a line. -/
def skipInline (cs : List Char) : List Char :=
  cs.dropWhile isInlineBlank

/-- Drop the rest of a line and the line feed that ends it. -/
def skipLine (cs : List Char) : List Char :=
  (cs.dropWhile (· ≠ '\n')).drop 1

/-- Drop the word `export` and the blanks after it, if both are there. -/
def skipExport (cs : List Char) : List Char :=
  if "export".toList.isPrefixOf cs then
    let rest := cs.drop 6
    if (rest.takeWhile isInlineBlank).isEmpty then cs else skipInline rest
  else cs

/-- Read a name, in single quotes or bare. -/
def key? : List Char → Option (List Char × List Char)
  | '\'' :: cs =>
    let name := cs.takeWhile (· ≠ '\'')
    match cs.dropWhile (· ≠ '\'') with
    | _ :: rest => if name.isEmpty then none else some (name, rest)
    | [] => none
  | cs =>
    let isNameChar := fun c => c ≠ '=' && c ≠ '#' && !Text.isBlank c
    let name := cs.takeWhile isNameChar
    if name.isEmpty then none else some (name, cs.dropWhile isNameChar)

/-- The offset of the quote that closes a value: the first that no backslash
    protects. -/
def closing? (q : Char) : Nat → List Char → Option Nat
  | _, [] => none
  | i, '\\' :: _ :: cs => closing? q (i + 2) cs
  | i, c :: cs => if c = q then some i else closing? q (i + 1) cs

/-- The character that an escape in a quoted value stands for. -/
def escape? (q c : Char) : Option Char :=
  if c = '\\' ∨ c = '\'' then some c
  else if q = '\'' then none
  else if c = '"' then some c
  else if c = 'a' then some (Char.ofNat 0x7)
  else if c = 'b' then some (Char.ofNat 0x8)
  else if c = 'f' then some (Char.ofNat 0xC)
  else if c = 'n' then some '\n'
  else if c = 'r' then some '\r'
  else if c = 't' then some '\t'
  else if c = 'v' then some (Char.ofNat 0xB)
  else none

/-- Resolve the escapes of a quoted value. -/
def unescape (q : Char) : List Char → List Char
  | '\\' :: c :: cs =>
    match escape? q c with
    | some e => e :: unescape q cs
    | none => '\\' :: unescape q (c :: cs)
  | c :: cs => c :: unescape q cs
  | [] => []

/-- The part of a line before a comment: up to a `#` that a blank precedes. The
    character before the line counts too. -/
def beforeComment : Option Char → List Char → List Char
  | _, [] => []
  | before, c :: cs =>
    if c = '#' ∧ (before.map Text.isBlank).getD false then []
    else c :: beforeComment (some c) cs

/-- Read a value, given the character before it: in quotes, or bare to the end of
    the line. -/
def value? (before : Char) (cs : List Char) : Option (List Char × List Char) :=
  match cs with
  | '\'' :: rest => quotedValue '\'' rest
  | '"' :: rest => quotedValue '"' rest
  | _ =>
    let line := cs.takeWhile (· ≠ '\n')
    let bare := (beforeComment (some before) line).reverse.dropWhile Text.isBlank
    some (bare.reverse, cs.dropWhile (· ≠ '\n'))
where
  /-- Read a value after its opening quote. -/
  quotedValue (q : Char) (cs : List Char) : Option (List Char × List Char) :=
    (closing? q 0 cs).map fun n => (unescape q (cs.take n), cs.drop (n + 1))

/-- Drop a comment and the end of the line; anything else there is refused. -/
def lineEnd? (cs : List Char) : Option (List Char) :=
  match skipInline cs with
  | [] => some []
  | '\n' :: rest => some rest
  | '#' :: rest => some (skipLine rest)
  | _ => none

/-- Read one line that sets a variable or names it; none for a comment. What is
    left is where the next line begins, also when the line is refused. -/
def binding (cs : List Char) : Option (String × Option String) × List Char :=
  let cs := skipExport cs
  if cs.head? = some '#' then (none, skipLine cs)
  else match key? cs with
    | none => (none, skipLine cs)
    | some (name, rest) =>
      match skipInline rest with
      | '=' :: rest =>
        let before := ('=' :: rest.takeWhile isInlineBlank).getLast (by simp)
        let rest := skipInline rest
        match value? before rest with
        | none => (none, skipLine rest)
        | some (value, rest) =>
          match lineEnd? rest with
          | some next => (some (String.ofList name, some (String.ofList value)), next)
          | none => (none, skipLine rest)
      | rest =>
        match lineEnd? rest with
        | some next => (some (String.ofList name, none), next)
        | none => (none, skipLine rest)

/-- The names of a text and their values, in order. The fuel bounds the number
    of lines. -/
def bindingsFrom : Nat → List Char → List (String × Option String)
  | 0, _ => []
  | fuel + 1, cs =>
    match cs.dropWhile Text.isBlank with
    | [] => []
    | cs =>
      let (entry, next) := binding cs
      entry.toList ++ bindingsFrom fuel next

/-- The names of a file and their values, in order. -/
def bindings (file : String) : List (String × Option String) :=
  let cs := unifyNewlines (dropMark file.toList)
  bindingsFrom (cs.length + 1) cs

/-- Read a mention of a variable after its opening brace: the name, the default
    if there is one, and what is left. -/
def mention? (cs : List Char) : Option (List Char × List Char × List Char) :=
  let isNameChar := fun c => c ≠ '\x7d' && c ≠ ':'
  let name := cs.takeWhile isNameChar
  match cs.dropWhile isNameChar with
  | '\x7d' :: rest => some (name, [], rest)
  | ':' :: '-' :: rest =>
    match rest.dropWhile (· ≠ '\x7d') with
    | _ :: after => some (name, rest.takeWhile (· ≠ '\x7d'), after)
    | [] => none
  | _ => none

/-- A value with the variables that it mentions replaced. A variable that is
    known but has no value counts as empty. The fuel bounds the length. -/
def expandFrom (known : List (String × Option LooseText)) : Nat → List Char → List Letter
  | 0, cs => cs.map .char
  | _ + 1, [] => []
  | fuel + 1, '$' :: '\x7b' :: cs =>
    match mention? cs with
    | some (name, fallback, rest) =>
      let text := match Entries.get? (String.ofList name) known with
        | some value => (value.getD ⟨[]⟩).letters
        | none => fallback.map .char
      text ++ expandFrom known fuel rest
    | none => .char '$' :: expandFrom known fuel ('\x7b' :: cs)
  | fuel + 1, c :: cs => .char c :: expandFrom known fuel cs

/-- A value with the variables that it mentions replaced. -/
def expand (known : List (String × Option LooseText)) (value : String) : LooseText :=
  ⟨expandFrom known (value.length + 1) value.toList⟩

/-- The variables that a file sets, in order, given the environment. Each is
    expanded when its line is reached; a later line replaces an earlier one. -/
def assignments (environment : List (String × LooseText)) (file : String) :
    List (String × Option LooseText) :=
  (bindings file).foldl (fun known (name, value) =>
    let environment := environment.map fun (k, v) => (k, some v)
    Entries.put name (value.map (expand (known ++ environment))) known) []

end Dotenv

end RecordGateway
