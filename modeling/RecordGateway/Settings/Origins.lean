import RecordGateway.Json.Reader

/-!
# Lists of Origins

The origins that may use the service from a browser are given as one text, in
either of two notations: a JSON array, or names separated by commas. A text that
reads as a JSON array is one; any other text, JSON or not, is a list with
commas. In both, blanks around an origin are dropped and blank origins skipped.
Halves of surrogate pairs are letters like any others, in the text and in what is
read of it.

## Main definitions

* `Origins.ofCommas`: the comma notation.
* `Origins.parse`: the origins of a text.
-/

namespace RecordGateway

namespace Origins

/-- Trim the members of a list and skip the blank ones. -/
def tidy (texts : List LooseText) : List LooseText :=
  (texts.map LooseText.trim).filter (· ≠ "")

/-- The origins of a text with commas. -/
def ofCommas (t : LooseText) : List LooseText :=
  tidy (t.pieces ',')

/-- The container that a text nests too deeply to be read, if that is why it was
    not read. -/
def tooDeep? (e : Json.ReadError) : Option Json.Container :=
  match e.expectation with
  | .lessNesting container => some container
  | _ => none

/-- The origins of a text in either notation. Members of an array that are not
    strings count as their displayed form. A text that nests containers too
    deeply is in neither notation. -/
def parse (t : LooseText) : Except Json.Container (List LooseText) :=
  match Json.read t with
  | .ok (.arr items) => .ok (tidy (items.map Json.display))
  | .ok _ => .ok (ofCommas t)
  | .error e =>
    match tooDeep? e with
    | some container => .error container
    | none => .ok (ofCommas t)

end Origins

end RecordGateway
