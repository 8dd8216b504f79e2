import RecordGateway.Form.Scalar

/-!
# Read Requests

A read request names a topic and may say where to begin, how many records to
return and which of their fields. A request remembers which of its fields were
given, so that it can be written out again as it came. Its timestamp is taken as
it is; whether it names an instant shows when the request is carried out.

## Main definitions

* `ReadRequest`: the request.
* `ReadRequest.check`: a request from the members of an object.
* `ReadRequest.members`: the fields that were given.
-/

namespace RecordGateway

/-- A request to read a page of records. -/
structure ReadRequest where
  /-- The topic, not empty. -/
  topic : String
  /-- The only partition to read, from zero on. -/
  partition : Slot Int
  /-- The offset to begin at, from zero on. -/
  offset : Slot Int
  /-- The instant to begin at, as text. -/
  timestamp : Slot LooseText
  /-- The greatest number of records, if one was given. -/
  limit : Option Int
  /-- The set of fields to return, in the order of fields, if one was given. -/
  fields : Option (List FieldName)
  deriving DecidableEq, Repr

namespace ReadRequest

/-- The greatest number of records when none is given. -/
def defaultLimit : Int := 50

/-- The greatest number of records that may be asked for. -/
def maxLimit : Int := 500

/-- A read request from the members of an object; other members are ignored. -/
def check (members : Json.Members) : Checked ReadRequest :=
  ReadRequest.mk <$> required "topic" Field.nonemptyString members
    <*> nullable "partition" Field.natural members
    <*> nullable "offset" Field.natural members
    <*> nullable "timestamp" Field.looseText members
    <*> optional "limit" (Field.atMost maxLimit (Field.atLeast 1 Field.integer)) members
    <*> optional "include" Field.fieldNames members

/-- The fields that were given, in order. -/
def members (r : ReadRequest) : Json.Members :=
  ([("topic", .text r.topic)] : Json.Members) ++ r.partition.member "partition" .int ++
    r.offset.member "offset" .int ++ r.timestamp.member "timestamp" .str ++
    Json.given "limit" .int r.limit ++
    Json.given "include" (fun fs => .arr (fs.map fun f => .text f.name)) r.fields

end ReadRequest

end RecordGateway
