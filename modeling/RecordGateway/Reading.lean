import RecordGateway.Connection
import RecordGateway.Partition.Positions
import RecordGateway.Partition.Selection
import RecordGateway.Record.Page
import RecordGateway.Request.Moment
import RecordGateway.Request.Read

/-!
# Reading a Page

A reader makes a consumer for each read, polls it at most once and closes it
whatever happens, so that no consumer outlives its read. What the caller got
wrong shows before a consumer is made: first a timestamp that names no instant,
then the first field name that is unknown.

The protocol of a read is: ask for the partitions of the topic, take on the
selected ones, find and apply the starting positions, poll once, close. The
first step that fails ends the read; only closing still follows it.

## Main definitions

* `Query`: what to read.
* `Query.ofRequest`: the query of a read request.
* `Reader`: the settings and the patience of a reader.
* `Reader.fetch`: the calls between making the consumer and closing it.
* `Reader.read`: read a page.
-/

namespace RecordGateway

/-- What to read. -/
structure Query where
  /-- The topic. -/
  topic : String
  /-- The only partition to read, if one is chosen. -/
  partition : Option Int := none
  /-- The offset to begin at, if one is given. -/
  offset : Option Int := none
  /-- The instant to begin at as text, if one is given. -/
  timestamp : Option LooseText := none
  /-- The greatest number of records. -/
  limit : Int := ReadRequest.defaultLimit
  /-- The names of the fields to show; none for all. -/
  fields : List String := []
  deriving DecidableEq, Repr

namespace Query

/-- The query of a read request. -/
def ofRequest (r : ReadRequest) : Query :=
  { topic := r.topic
    partition := r.partition.toOption
    offset := r.offset.toOption
    timestamp := r.timestamp.toOption
    limit := r.limit.getD ReadRequest.defaultLimit
    fields := (r.fields.getD []).map FieldName.name }

/-- The instant and the fields of a query; a bad timestamp is reported before
    an unknown field. -/
def prepare (q : Query) : Except Failure (Option Instant × List FieldName) := do
  let since ← Moment.parse q.timestamp
  let wanted ← q.fields.mapM FieldName.parse
  return (since, wanted)

end Query

/-- The page of what a poll returned, log after log. -/
def Page.ofBatches (wanted : List FieldName)
    (batches : List (TopicPartition × List ConsumedRecord)) : Except Failure Page :=
  let shown (r : ConsumedRecord) := (r.view wanted).mapError Failure.outOfRange
  ((batches.flatMap Prod.snd).mapM shown).map Page.mk

/-- The settings and the patience of a reader. -/
structure Reader where
  /-- How to reach the broker. -/
  settings : Settings
  /-- The milliseconds that a poll waits for records. -/
  pollTimeout : Number

namespace Reader

variable {σ : Type}

/-- The calls between making the consumer and closing it. -/
def fetch (r : Reader) (c : Consumer σ) (q : Query) (since : Option Instant)
    (wanted : List FieldName) : Exchange σ Page := do
  let available ← Exchange.call (.partitionsOf q.topic) (c.partitionsOf q.topic)
  let logs ← Exchange.ofExcept (Selection.logs q.topic available q.partition)
  Exchange.call (.assign logs) (c.assign logs)
  let positions ← Positions.find c logs q.offset since
  Positions.apply c positions
  let batches ← Exchange.call (.poll r.pollTimeout q.limit) (c.poll r.pollTimeout q.limit)
  let page ← Exchange.ofExcept (Page.ofBatches wanted batches)
  Exchange.note (.pageRead page.size q.topic logs.length)
  return page

/-- Read a page: check the query, make a consumer, fetch, and close it. -/
def read (r : Reader) (c : Consumer σ) (q : Query) : Exchange σ Page := do
  let (since, wanted) ← Exchange.ofExcept q.prepare
  let _ ← Exchange.ofExcept ((Connection.consumer r.settings (some q.limit)).mapError .badVersion)
  Exchange.call (.consumerNew (some q.limit)) (c.create (some q.limit))
  Exchange.closing (r.fetch c q since wanted) (Exchange.call .consumerClose c.close)

end Reader

end RecordGateway
