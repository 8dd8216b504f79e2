import RecordGateway.Form.Scalar

/-!
# Write Requests

A write request holds the value of one record and may choose its key, partition,
timestamp and headers. Its texts are taken as they are; whether they have a UTF-8
form shows when the record is sent.

## Main definitions

* `WriteRequest`: the request.
* `WriteRequest.check`: a request from the members of an object.
* `WriteRequest.members`: the fields that were given.
-/

namespace RecordGateway

/-- A request to write a record. -/
structure WriteRequest where
  /-- The partition to write to, from zero on. -/
  partition : Slot Int
  /-- The record's timestamp, as text. -/
  timestamp : Slot LooseText
  /-- The record's key. -/
  key : Slot LooseText
  /-- The record's value. -/
  value : LooseText
  /-- The record's headers, if any were given. -/
  headers : Option Headers
  deriving DecidableEq, Repr

namespace WriteRequest

/-- A write request from the members of an object; other members are ignored. -/
def check (members : Json.Members) : Checked WriteRequest :=
  WriteRequest.mk <$> nullable "partition" Field.natural members
    <*> nullable "timestamp" Field.looseText members
    <*> nullable "key" Field.looseText members
    <*> required "value" Field.looseText members
    <*> optional "headers" Field.headers members

/-- The fields that were given, in order. -/
def members (r : WriteRequest) : Json.Members :=
  r.partition.member "partition" .int ++ r.timestamp.member "timestamp" .str ++
    r.key.member "key" .str ++ ([("value", .str r.value)] : Json.Members) ++
    Json.given "headers" Headers.toJson r.headers

/-- The headers to send; none when none were given. -/
def headersOrNone (r : WriteRequest) : Headers :=
  r.headers.getD []

end WriteRequest

end RecordGateway
