import RecordGateway.Record.FieldName
import RecordGateway.Text.Blank
import RecordGateway.Text.Split

/-!
# Lists of Fields to Include

The fields to include in a page are named in one or more texts, each of which
may name several fields separated by commas. Blanks around a name do not count,
and a name of nothing but blanks is skipped. Repeats are kept, in order.

## Main definitions

* `Inclusion.names`: the names in a list of texts.
* `Inclusion.parse`: the fields that a list of texts names.
-/

namespace RecordGateway

namespace Inclusion

/-- The trimmed names in a list of texts, blank ones skipped. -/
def names (texts : List String) : List String :=
  texts.flatMap fun text => ((Text.pieces ',' text).map Text.trim).filter (· ≠ "")

/-- The fields that a list of texts names; the first unknown name is refused. -/
def parse (texts : List String) : Except Failure (List FieldName) :=
  (names texts).mapM FieldName.parse

end Inclusion

end RecordGateway
