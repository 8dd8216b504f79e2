import RecordGateway.Client.Exchange
import RecordGateway.Record.View

/-!
# Consumers

A consumer reads logs for one reader. Nothing is assumed here of what it
answers: a read has to keep its protocol with every consumer.

## Main definitions

* `Consumer`: the calls that a consumer answers.
-/

namespace RecordGateway

/-- The calls of a consumer in a world `σ`. -/
structure Consumer (σ : Type) where
  /-- Make the consumer, with a bound on the records of one poll. -/
  create : Option Int → Answer σ Unit
  /-- The ids of a topic's partitions; none for an unknown topic. -/
  partitionsOf : String → Answer σ (Option (List Int))
  /-- Take on logs. -/
  assign : List TopicPartition → Answer σ Unit
  /-- For each log the offset of its first record at or after an instant;
      perhaps no answer at all. -/
  offsetsForTimes : List (TopicPartition × Instant) →
    Answer σ (Option (List (TopicPartition × Option Int)))
  /-- The end of each log. -/
  endOffsets : List TopicPartition → Answer σ (List (TopicPartition × Int))
  /-- Move to an offset of a log. -/
  seek : TopicPartition → Int → Answer σ Unit
  /-- The next records of each log, within a time and up to a number. -/
  poll : Number → Int → Answer σ (List (TopicPartition × List ConsumedRecord))
  /-- Close the consumer. -/
  close : Answer σ Unit

end RecordGateway
