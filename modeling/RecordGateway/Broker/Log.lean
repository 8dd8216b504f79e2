import RecordGateway.Record.View

/-!
# Logs

A partition holds a log: stored records in the order in which they came, each
with an offset. Offsets may have gaps, and a log may begin after zero and end
beyond its last record, as a log does whose records were removed. So a log
knows where it begins and which offset the next record gets.

## Main definitions

* `StoredRecord`: a record in a log.
* `StoredRecord.consume`: the record as a consumer hands it out.
* `Log`: a log.
* `Log.append`: store a record.
* `Log.since`: the records from an offset on.
* `Log.offsetAt`: the offset of the first record at or after an instant.
-/

namespace RecordGateway

/-- A record in a log. -/
structure StoredRecord where
  /-- Its place in the log. -/
  offset : Int
  /-- The timestamp, if there is one. -/
  timestamp : Option Instant
  /-- The kind of timestamp. -/
  timestampType : Option Int
  /-- The key, if there is one. -/
  key : Option Bytes
  /-- The value, if there is one. -/
  value : Option Bytes
  /-- The headers, in order and with repeats; null counts as none. -/
  headers : Option (List (LooseText × Option Bytes))
  deriving DecidableEq, Repr

namespace StoredRecord

/-- The record as a consumer hands it out: its key and value as text, damaged
    bytes replaced. -/
def consume (partition : Int) (r : StoredRecord) : ConsumedRecord :=
  { partition := partition
    offset := r.offset
    timestamp := r.timestamp
    timestampType := r.timestampType
    key := r.key.map Text.decode
    value := r.value.map Text.decode
    headers := r.headers }

end StoredRecord

/-- The log of a partition. -/
structure Log where
  /-- The offset at which the log begins. -/
  first : Int
  /-- The offset that the next record gets. -/
  next : Int
  /-- The records, in the order in which they came. -/
  records : List StoredRecord
  deriving DecidableEq, Repr

namespace Log

/-- A log that begins at an offset and holds nothing yet. -/
def empty (first : Int) : Log :=
  ⟨first, first, []⟩

/-- Store a record under the offset it has. -/
def insert (log : Log) (r : StoredRecord) : Log :=
  { log with next := r.offset + 1, records := log.records ++ [r] }

/-- Store a record under the next offset. -/
def append (log : Log) (r : StoredRecord) : Log :=
  log.insert { r with offset := log.next }

/-- The records from an offset on. -/
def since (log : Log) (offset : Int) : List StoredRecord :=
  log.records.filter fun r => offset ≤ r.offset

/-- Whether a record has a timestamp at or after an instant. -/
def isAtOrAfter (t : Instant) (r : StoredRecord) : Bool :=
  match r.timestamp with
  | some stamp => decide (t ≤ stamp)
  | none => false

/-- The offset of the first record at or after an instant. -/
def offsetAt (log : Log) (t : Instant) : Option Int :=
  (log.records.find? (isAtOrAfter t)).map StoredRecord.offset

end Log

end RecordGateway
