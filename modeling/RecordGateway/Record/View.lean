import RecordGateway.Record.Basic
import RecordGateway.Record.FieldName
import RecordGateway.Record.Reported

/-!
# Views of a Consumed Record

A consumed record is shown through a view: the fields that the reader asked for,
or all of them when it asked for none. A field that was not asked for is not
even looked at, so a timestamp that cannot be written does no harm to a view
without it.

A record without a timestamp, or with a negative one, is shown without that
field. The kind of timestamp always has a name.

## Main definitions

* `ConsumedRecord`: what a consumer hands out.
* `ConsumedRecord.view`: the record as it is shown.
* `ConsumedRecord.viewNamed`: the same, the fields given by name.
-/

namespace RecordGateway

/-- A record as a consumer hands it out. -/
structure ConsumedRecord where
  /-- The id of the partition. -/
  partition : Int
  /-- The place in the partition's log. -/
  offset : Int
  /-- The timestamp, if there is one. -/
  timestamp : Option Instant
  /-- The kind of timestamp: 0 when the record was made, 1 when it was stored. -/
  timestampType : Option Int
  /-- The key, if there is one. -/
  key : Option String
  /-- The value, if there is one. -/
  value : Option String
  /-- The headers, in order and with repeats; null counts as none. -/
  headers : Option (List (LooseText × Option Bytes))
  deriving DecidableEq, Repr

namespace ConsumedRecord

/-- The name of a kind of timestamp. -/
def timestampTypeName : Option Int → String
  | some 0 => "CREATE_TIME"
  | some 1 => "LOG_APPEND_TIME"
  | _ => "NO_TIMESTAMP_TYPE"

/-- Whether a field belongs to a view; an empty list asks for all. -/
def isWanted (wanted : List FieldName) (f : FieldName) : Bool :=
  wanted.isEmpty || wanted.contains f

/-- A slot if a field is wanted, else left out. -/
def slotIf {α : Type} (wanted : List FieldName) (f : FieldName) (s : Slot α) : Slot α :=
  if isWanted wanted f then s else .unset

/-- The record as it is shown, with the wanted fields alone. -/
def view (wanted : List FieldName) (r : ConsumedRecord) : Except RangeError Record := do
  let timestamp ←
    if isWanted wanted .timestamp then Reported.timestamp r.timestamp else .ok .unset
  return {
    partition := slotIf wanted .partition (.value r.partition)
    offset := slotIf wanted .offset (.value r.offset)
    timestamp := timestamp
    timestampType := slotIf wanted .timestampType (.value (timestampTypeName r.timestampType))
    key := slotIf wanted .key (.ofOption (r.key.map .ofString))
    value := slotIf wanted .value (.ofOption (r.value.map .ofString))
    headers := slotIf wanted .headers (.value (Headers.decode (r.headers.getD []))) }

/-- The record as it is shown, the wanted fields given by name. The names are
    checked first. -/
def viewNamed (names : List String) (r : ConsumedRecord) : Except Failure Record := do
  let wanted ← names.mapM FieldName.parse
  (r.view wanted).mapError .outOfRange

end ConsumedRecord

end RecordGateway
