import RecordGateway.Client.Outgoing
import RecordGateway.Failure
import RecordGateway.Number.Basic

/-!
# What a Session Shows

Everything that a session does to the outside is an event: a call on a client
of the broker, a line in a log, the settlement of a publication, which whoever
waits for it sees, or a failure inside a callback, which nobody but the client
sees. The events of a step, in order, are its observable behaviour beside its
result.

## Main definitions

* `Outcome`: how a publication ended.
* `Notice`: a line in a log, by what it reports.
* `Notice.level`, `Notice.source`, `Notice.message`: how it is written.
* `Event`: one thing that a session did.
* `Call`: the calls on clients, by name.
* `Event.call?`: the call that an event is, if it is one.
-/

namespace RecordGateway

/-- How a publication ended. -/
inductive Outcome where
  /-- The broker stored the record. -/
  | stored (record : Record)
  /-- The record was not stored. -/
  | failed (failure : Failure)
  deriving DecidableEq, Repr

/-- A line in a log. -/
inductive Notice where
  /-- A consumer is about to be moved. -/
  | seeking (log : TopicPartition) (offset : Int)
  /-- A page was read. -/
  | pageRead (records : Nat) (topic : String) (partitions : Nat)
  /-- A send failed. -/
  | sendFailed (topic : String) (cause : Fault)
  /-- Closing a producer failed. -/
  | closeFailed
  /-- A failure nobody expected reached the service. -/
  | unhandled
  /-- The service is ready. -/
  | ready (bootstrap : LooseText)
  deriving DecidableEq, Repr

namespace Notice

/-- How severe a notice is. -/
def level : Notice → String
  | .seeking .. | .pageRead .. => "DEBUG"
  | .sendFailed .. | .ready _ => "INFO"
  | .closeFailed => "WARNING"
  | .unhandled => "ERROR"

/-- The part of the program that a notice names as its source. -/
def source : Notice → String
  | .seeking .. => "kafka_records.services.position_resolver"
  | .pageRead .. => "kafka_records.services.record_reader"
  | .sendFailed .. | .closeFailed => "kafka_records.services.record_writer"
  | .unhandled => "kafka_records.core.errors"
  | .ready _ => "server"

/-- The wording of a notice. -/
def message : Notice → LooseText
  | .seeking log offset => .ofString
    ("Seeking " ++ log.topic ++ "-" ++ toString log.partition ++ " to offset " ++ toString offset)
  | .pageRead records topic partitions => .ofString
    ("Read " ++ toString records ++ " record(s) from " ++ topic ++ " (" ++ toString partitions ++
      " partition(s))")
  | .sendFailed topic cause => .ofString ("Send to topic " ++ topic ++ " failed: " ++ cause.text)
  | .closeFailed => "Exception closing Kafka producer"
  | .unhandled => "Unhandled error"
  | .ready bootstrap => "Records API ready (bootstrap=" ++ bootstrap ++ ")"

end Notice

/-- One thing that a session did. -/
inductive Event where
  /-- A consumer was asked for, with a bound on the records of a poll. -/
  | consumerNew (maxRecords : Option Int)
  /-- The consumer was asked for the partitions of a topic. -/
  | partitionsOf (topic : String)
  /-- The consumer was given its logs. -/
  | assign (logs : List TopicPartition)
  /-- The consumer was asked for the ends of logs. -/
  | endOffsets (logs : List TopicPartition)
  /-- The consumer was asked for the first records at or after instants. -/
  | offsetsForTimes (asked : List (TopicPartition × Instant))
  /-- The consumer was moved. -/
  | seek (log : TopicPartition) (offset : Int)
  /-- The consumer was polled. -/
  | poll (timeout : Number) (maxRecords : Int)
  /-- The consumer was closed. -/
  | consumerClose
  /-- A producer was asked for. -/
  | producerNew
  /-- A record was handed to the producer. -/
  | send (record : Outgoing)
  /-- The producer was closed. -/
  | producerClose (timeout : Number)
  /-- A publication was settled: its outcome is there for whoever waits. -/
  | settled (outcome : Outcome)
  /-- A callback failed; the client caught the failure. -/
  | callbackFailed (error : RangeError)
  /-- A line was written to a log. -/
  | notice (n : Notice)
  deriving DecidableEq, Repr

/-- A call on a client of the broker. -/
inductive Call where
  /-- Making a consumer. -/
  | consumerNew
  /-- Asking for the partitions of a topic. -/
  | partitionsOf
  /-- Giving a consumer its logs. -/
  | assign
  /-- Asking for the ends of logs. -/
  | endOffsets
  /-- Asking for the first records at or after instants. -/
  | offsetsForTimes
  /-- Moving a consumer. -/
  | seek
  /-- Polling a consumer. -/
  | poll
  /-- Closing a consumer. -/
  | consumerClose
  /-- Making a producer. -/
  | producerNew
  /-- Handing a record to a producer. -/
  | send
  /-- Closing a producer. -/
  | producerClose
  deriving DecidableEq, Repr

/-- The call that an event is, if it is one. -/
def Event.call? : Event → Option Call
  | .consumerNew _ => some .consumerNew
  | .partitionsOf _ => some .partitionsOf
  | .assign _ => some .assign
  | .endOffsets _ => some .endOffsets
  | .offsetsForTimes _ => some .offsetsForTimes
  | .seek .. => some .seek
  | .poll .. => some .poll
  | .consumerClose => some .consumerClose
  | .producerNew => some .producerNew
  | .send _ => some .send
  | .producerClose _ => some .producerClose
  | .settled _ | .callbackFailed _ | .notice _ => none

end RecordGateway
