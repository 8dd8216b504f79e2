import RecordGateway.Broker.Log
import RecordGateway.Client.Event
import RecordGateway.Entries

/-!
# A Broker in Memory

A broker that keeps its logs in memory. It can be told to misbehave as real
brokers do: to raise a fault at a call, to acknowledge a send late or not at
all, to hand out more records than were asked for, or to leave questions about
instants without an answer. So every path of a read and of a publication can be
walked without a network.

## Main definitions

* `Broker`: the logs, how the broker behaves, and where the consumer stands.
* `Broker.log?`: a log by name.
* `Broker.store`: append a record to a log.
* `Unfound`, `Acknowledgement`: the ways to behave.
-/

namespace RecordGateway

/-- How the broker answers for an instant that is after all records of a log. -/
inductive Unfound where
  /-- The log is in the answer, without an offset. -/
  | null
  /-- The log is not in the answer. -/
  | absent
  /-- There is no answer at all, for any log. -/
  | silent
  deriving DecidableEq, Repr

/-- What becomes of a record that the broker is handed. -/
inductive Acknowledgement where
  /-- It is stored, if it can be, and the sender is told at once. -/
  | atOnce
  /-- The sender is told nothing yet. -/
  | later
  /-- The sender is told a given signal. -/
  | told (signal : Signal)
  deriving DecidableEq, Repr

/-- A broker and the state of its clients. -/
structure Broker where
  /-- The topics by name, each with its logs by the ids of the partitions. -/
  topics : List (String × List (Int × Log))
  /-- The instant that the broker takes it to be. -/
  clock : Instant
  /-- Whether records get the broker's timestamp in place of their own. -/
  stampsOnAppend : Bool
  /-- The answer for an instant after all records. -/
  unfound : Unfound
  /-- The order of partitions in a poll, if it is not that of the consumer. -/
  pollOrder : Option (List Int)
  /-- How many records a poll may return beyond what was asked for. -/
  overdeliver : Int
  /-- The faults that calls raise at present. -/
  faults : List (Call × Fault)
  /-- What becomes of sends at present. -/
  acknowledgement : Acknowledgement
  /-- The logs that the consumer took on, each with its position. -/
  positions : List (TopicPartition × Int)
  deriving DecidableEq, Repr

namespace Broker

/-- A log by name. -/
def log? (b : Broker) (name : TopicPartition) : Option Log :=
  (Entries.get? name.topic b.topics).bind (Entries.get? name.partition)

/-- The ids of the partitions of a topic, if the topic is known. -/
def partitionsOf? (b : Broker) (topic : String) : Option (List Int) :=
  (Entries.get? topic b.topics).map fun logs => logs.map Prod.fst

/-- The broker with a record appended to a log, and the offset it got. -/
def store (b : Broker) (name : TopicPartition) (log : Log) (r : StoredRecord) : Broker × Int :=
  let logs := (Entries.get? name.topic b.topics).getD []
  let topics := Entries.put name.topic (Entries.put name.partition (log.append r) logs) b.topics
  ({ b with topics := topics }, log.next)

/-- The least of a list of ids. -/
def lowest? : List Int → Option Int
  | [] => none
  | id :: rest => some (rest.foldl min id)

/-- The log to which the broker appends a record: that of the partition given,
    or else of the one with the lowest id. -/
def destination? (b : Broker) (r : Outgoing) : Option (TopicPartition × Log) := do
  let ids ← b.partitionsOf? r.topic
  let id ← r.partition.or (lowest? ids)
  let log ← b.log? ⟨r.topic, id⟩
  return (⟨r.topic, id⟩, log)

/-- The timestamp that a record gets, and its kind. -/
def stamp (b : Broker) (r : Outgoing) : Instant × Int :=
  if b.stampsOnAppend then (b.clock, 1) else (r.timestamp.getD b.clock, 0)

/-- The fault of a send to a log that the broker does not know. -/
def unknownLog : Fault :=
  ⟨.unknownTopicOrPartition, none⟩

/-- Take on a record and tell the sender at once: where it is, or that its log
    is unknown. -/
def take (b : Broker) (r : Outgoing) : Signal × Broker :=
  match b.destination? r with
  | none => (.refused unknownLog, b)
  | some (name, log) =>
    let (timestamp, kind) := b.stamp r
    let (b', offset) := b.store name log
      { offset := log.next
        timestamp := some timestamp
        timestampType := some kind
        key := r.key
        value := some r.value
        headers := some (r.headers.map fun (k, v) => (k, some v)) }
    (.delivered ⟨some name.partition, some offset, some timestamp⟩, b')

/-- The broker as it is during a step of a session. -/
def during (b : Broker) (faults : List (Call × Fault)) (acknowledgement : Acknowledgement) :
    Broker :=
  { b with faults := faults, acknowledgement := acknowledgement }

end Broker

end RecordGateway
