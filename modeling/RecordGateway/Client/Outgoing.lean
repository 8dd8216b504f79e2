import RecordGateway.Fault
import RecordGateway.Record.Basic
import RecordGateway.Time.Instant

/-!
# Records on Their Way to the Broker

What a producer is handed, and what the broker says about it afterwards.

## Main definitions

* `Outgoing`: a record as it is sent.
* `Metadata`: where and when the broker stored a record.
* `Signal`: how a send ended.
-/

namespace RecordGateway

/-- A record as it is sent. -/
structure Outgoing where
  /-- The topic. -/
  topic : String
  /-- The value. -/
  value : Bytes
  /-- The key, if there is one. -/
  key : Option Bytes
  /-- The id of the partition, if the sender chose one. -/
  partition : Option Int
  /-- The timestamp, if the sender chose one. -/
  timestamp : Option Instant
  /-- The headers, in order. -/
  headers : List (LooseText × Bytes)
  deriving DecidableEq, Repr

/-- What the broker reports about a stored record. An offset or timestamp that
    is null or negative was not reported. -/
structure Metadata where
  /-- The id of the partition, as reported. -/
  partition : Option Int
  /-- The place in the partition's log. -/
  offset : Option Int
  /-- The timestamp of the record. -/
  timestamp : Option Instant
  deriving DecidableEq, Repr

/-- How a send ended. -/
inductive Signal where
  /-- The broker stored the record. -/
  | delivered (metadata : Metadata)
  /-- The record was not stored. -/
  | refused (cause : Fault)
  deriving DecidableEq, Repr

end RecordGateway
