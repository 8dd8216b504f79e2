import RecordGateway.Form.Scalar
import RecordGateway.Http.QueryString
import RecordGateway.Reading
import RecordGateway.Record.Inclusion

/-!
# Parameters of a Read

A read is asked for with parameters in a query string: a partition, an offset, a
timestamp, a limit, and fields to include. All of them are checked before
anything is done, in this order, and other parameters are ignored. The names of
fields are looked at only when the others passed.

## Main definitions

* `Http.Parameters`: the parameters.
* `Http.Parameters.check`: the parameters of a query string.
* `Http.Parameters.query`: what they ask for.
-/

namespace RecordGateway

namespace Http

/-- The parameters of a read. -/
structure Parameters where
  /-- The only partition to read. -/
  partition : Option Int
  /-- The offset to begin at. -/
  offset : Option Int
  /-- The instant to begin at, as text. -/
  timestamp : Option String
  /-- The greatest number of records. -/
  limit : Int
  /-- The texts that name fields to include. -/
  inclusion : List String
  deriving DecidableEq, Repr

namespace Parameters

/-- A parameter with one value, as a member of a form: the last value counts. -/
def scalar (ps : List (String × String)) (name : String) : Json.Members :=
  ((QueryString.last? name ps).map fun value => (LooseText.ofString name, Json.text value)).toList

/-- The parameters of a query string, given the limit that holds when none is
    asked for and the greatest one. -/
def check (defaultLimit maxLimit : Int) (query : String) : Checked Parameters :=
  let ps := QueryString.pairs query
  let limit := Field.atMost maxLimit (Field.atLeast 1 Field.integer)
  (Parameters.mk <$> optional "partition" Field.natural (scalar ps "partition")
    <*> optional "offset" Field.natural (scalar ps "offset")
    <*> optional "timestamp" Field.string (scalar ps "timestamp")
    <*> (optional "limit" limit (scalar ps "limit")).map (·.getD defaultLimit)
    <*> Checked.good (QueryString.values "include" ps)).under (.key "query")

/-- What the parameters ask for; the first unknown field is refused. -/
def query (topic : String) (p : Parameters) : Except Failure Query := do
  let fields ← Inclusion.parse p.inclusion
  return {
    topic := topic
    partition := p.partition
    offset := p.offset
    timestamp := p.timestamp.map .ofString
    limit := p.limit
    fields := fields.map FieldName.name }

end Parameters

end Http

end RecordGateway
