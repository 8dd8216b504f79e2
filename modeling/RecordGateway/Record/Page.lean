import RecordGateway.Record.Basic

/-!
# Pages of Records

A read answers with one page. The page is all there is: its total and its size
both count its records, and its number is always one. A reader asks for more
with a new starting position.

## Main definitions

* `Page`: the records of one read.
* `Page.toJson`: its JSON form.
-/

namespace RecordGateway

/-- The records of one read, in order. -/
structure Page where
  /-- The records. -/
  items : List Record
  deriving DecidableEq, Repr

namespace Page

/-- The number of records on a page. -/
def size (p : Page) : Nat :=
  p.items.length

/-- The JSON form of a page. -/
def toJson (p : Page) : Json :=
  .obj
    [("items", .arr (p.items.map Record.toJson)), ("total", .int p.size), ("size", .int p.size),
     ("page", .int 1)]

end Page

end RecordGateway
