import RecordGateway.Form.Checked
import RecordGateway.Number.Spelling
import RecordGateway.Record.Basic
import RecordGateway.Record.FieldName

/-!
# Fields of a Form

What the fields of a form accept. A string is a string and nothing else; most
fields want one of characters alone, but what a record holds may be any text.
Numbers are taken in several spellings: an integer field accepts truth values as
0 and 1, numbers without a fractional part and strings that spell one; a number
field accepts the same with fractions. Numbers with a point count as integers
only within 64 bits. A field that may be null has three states, and so becomes a
slot.

## Main definitions

* `Field.looseText`, `Field.string`: strings.
* `Field.integer`, `Field.number`: numbers.
* `Field.atLeast`, `Field.atMost`: bounds on an integer.
* `Field.orNull`: accept null too.
* `Field.headers`, `Field.fieldNames`: the composite fields of requests.
* `nullable`: a member that may be left out and may be null.
-/

namespace RecordGateway

namespace Field

/-- A string, halves of surrogate pairs included. -/
def looseText : Json → Checked LooseText
  | .str t => .good t
  | v => Checked.complain .notAString v

/-- A string of characters. -/
def string (v : Json) : Checked String :=
  (looseText v).andThen fun t =>
    match t.toString? with
    | some s => .good s
    | none => Checked.complain .notUnicode v

/-- A string that is not empty. -/
def nonemptyString (v : Json) : Checked String :=
  (string v).andThen fun s => if s = "" then Checked.complain (.tooShort 1) v else .good s

/-- The magnitude that a number with a point must stay below to count as an
    integer. -/
def realIntegerLimit : Nat := Nat.pow 2 63

/-- The integer that a number with a point or an exponent equals. -/
def integerOfReal (x : Binary64) : Checked Int :=
  if x.isFinite then
    match x.toInt? with
    | some n =>
      if n.natAbs < realIntegerLimit then .good n else Checked.complain .oversized (.real x)
    | none => Checked.complain .fractional (.real x)
  else Checked.complain .notFinite (.real x)

/-- The integer that a text spells. -/
def integerOfText (t : LooseText) : Checked Int :=
  match t.toString? with
  | none => Checked.complain .notUnicode (.str t)
  | some s =>
    match Number.intOfField s with
    | .ok n => .good n
    | .error .misspelt => Checked.complain .misspeltInteger (.str t)
    | .error .tooLong => Checked.complain .oversized (.str t)

/-- An integer, in any of its spellings. -/
def integer : Json → Checked Int
  | .int n => .good n
  | .bool b => .good (if b then 1 else 0)
  | .real x => integerOfReal x
  | .str t => integerOfText t
  | v => Checked.complain .notAnInteger v

/-- The number that an integer is nearest to, if that is finite. -/
def numberOfInteger (n : Int) : Checked Binary64 :=
  let x := Binary64.ofInt n
  if x.isFinite then .good x else Checked.complain .notANumber (.int n)

/-- The number that a text spells. -/
def numberOfText (t : LooseText) : Checked Binary64 :=
  match t.toString? with
  | none => Checked.complain .notUnicode (.str t)
  | some s =>
    match Number.floatOfField? s with
    | some x => .good x
    | none => Checked.complain .misspeltNumber (.str t)

/-- A number, in any of its spellings. -/
def number : Json → Checked Binary64
  | .int n => numberOfInteger n
  | .bool b => numberOfInteger (if b then 1 else 0)
  | .real x => .good x
  | .str t => numberOfText t
  | v => Checked.complain .notANumber v

/-- An integer that is not below a bound. -/
def atLeast (bound : Int) (check : Json → Checked Int) (v : Json) : Checked Int :=
  (check v).andThen fun n => if n < bound then Checked.complain (.below bound) v else .good n

/-- An integer that is not above a bound. -/
def atMost (bound : Int) (check : Json → Checked Int) (v : Json) : Checked Int :=
  (check v).andThen fun n => if bound < n then Checked.complain (.above bound) v else .good n

/-- A number that is at least zero; not-a-number is not. -/
def nonnegative (v : Json) : Checked Binary64 :=
  (number v).andThen fun x =>
    if x.isNonnegative then .good x else Checked.complain (.below 0) v

/-- A partition's id or an offset: an integer from zero on. -/
def natural : Json → Checked Int :=
  atLeast 0 integer

/-- Null, or what a check accepts. -/
def orNull {α : Type} (check : Json → Checked α) : Json → Checked (Option α)
  | .null => .good none
  | v => (check v).map some

/-- A mapping from names to strings, halves of surrogate pairs included. -/
def headers : Json → Checked Headers
  | .obj members => Checked.mapping looseText members
  | v => Checked.complain .notAMapping v

/-- The name of a field of a record. -/
def fieldName : Json → Checked FieldName
  | .str t =>
    match t.toString?.bind FieldName.ofName? with
    | some f => .good f
    | none => Checked.complain .notAFieldName (.str t)
  | v => Checked.complain .notAFieldName v

/-- A set of fields as a list: each field that occurs, in the order of fields. -/
def canonical (fields : List FieldName) : List FieldName :=
  FieldName.all.filter fields.contains

/-- A set of field names. -/
def fieldNames : Json → Checked (List FieldName)
  | .arr xs => (Checked.list fieldName xs).map canonical
  | v => Checked.complain .notASet v

/-- A list of anything. -/
def anyList : Json → Checked (List Json)
  | .arr xs => .good xs
  | v => Checked.complain .notAList v

end Field

/-- A member that may be left out and may be null. -/
def nullable {α : Type} (key : String) (check : Json → Checked α)
    (members : Json.Members) : Checked (Slot α) :=
  match Entries.get? (LooseText.ofString key) members with
  | some v => ((Field.orNull check v).under (.key key)).map Slot.ofOption
  | none => .good .unset

end RecordGateway
