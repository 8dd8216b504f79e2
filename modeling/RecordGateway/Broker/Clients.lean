import RecordGateway.Broker.Basic
import RecordGateway.Client.Consumer
import RecordGateway.Client.Producer

/-!
# Clients of the Broker in Memory

The consumer and the producer of a broker in memory. A call for which the broker
holds a fault raises it and changes nothing; the other calls act.

A poll has a budget of records for all logs together. Each log gives the records
from its position on, as many as the budget allows, and the budget shrinks by
their number. Logs that give nothing are not in the answer. A budget below zero
takes away records from the end of what a log has.

## Main definitions

* `Broker.answering`: a call that may raise the broker's fault.
* `Broker.batches`: what a poll returns.
* `Broker.consumer`, `Broker.producer`: the clients.
-/

namespace RecordGateway

namespace Broker

/-- A call that raises the broker's fault for it, if there is one, and else
    acts. -/
def answering {α : Type} (call : Call) (act : Broker → α × Broker) :
    Answer Broker α := fun b =>
  match Entries.get? call b.faults with
  | some f => (.error f, b)
  | none =>
    let (a, b') := act b
    (.ok a, b')

/-- The beginning of a list within a budget; a negative budget counts from the
    end. -/
def within {α : Type} (budget : Int) (xs : List α) : List α :=
  if 0 ≤ budget then xs.take budget.toNat else xs.take (xs.length - budget.natAbs)

/-- The offset of a log for an instant, as the broker answers it. -/
def offsetFor (b : Broker) (log : TopicPartition) (t : Instant) :
    Option (TopicPartition × Option Int) :=
  match (b.log? log).bind fun l => l.offsetAt t with
  | some offset => some (log, some offset)
  | none => if b.unfound = .null then some (log, none) else none

/-- The end of a log. -/
def endOf (b : Broker) (log : TopicPartition) : Option (TopicPartition × Int) :=
  (b.log? log).map fun l => (log, l.next)

/-- The assigned logs in the order of a poll. -/
def pollSequence (b : Broker) : List (TopicPartition × Int) :=
  match b.pollOrder with
  | none => b.positions
  | some ids => ids.flatMap fun id => b.positions.filter fun p => p.1.partition = id

/-- What a poll returns, log after log, within a budget. -/
def batches (b : Broker) : Int → List (TopicPartition × Int) →
    List (TopicPartition × List ConsumedRecord)
  | _, [] => []
  | budget, (name, position) :: rest =>
    let found := ((b.log? name).map fun l => l.since position).getD []
    let records := within budget found
    let batch := records.map (StoredRecord.consume name.partition)
    let others := batches b (budget - records.length) rest
    if batch.isEmpty then others else (name, batch) :: others

/-- The consumer of a broker. -/
def consumer : Consumer Broker :=
  { create := fun _ => answering .consumerNew fun b => ((), { b with positions := [] })
    partitionsOf := fun topic => answering .partitionsOf fun b => (b.partitionsOf? topic, b)
    assign := fun logs => answering .assign fun b =>
      ((), { b with positions := logs.map fun log => (log, ((b.log? log).map Log.first).getD 0) })
    offsetsForTimes := fun asked => answering .offsetsForTimes fun b =>
      (if b.unfound = .silent then none
        else some (asked.filterMap fun (log, t) => b.offsetFor log t), b)
    endOffsets := fun logs => answering .endOffsets fun b => (logs.filterMap b.endOf, b)
    seek := fun log offset => answering .seek fun b =>
      ((), { b with positions := Entries.put log offset b.positions })
    poll := fun _ limit => answering .poll fun b =>
      (b.batches (limit + b.overdeliver) b.pollSequence, b)
    close := answering .consumerClose fun b => ((), b) }

/-- What a send signals at once, by what becomes of sends. -/
def acknowledge (r : Outgoing) (b : Broker) : Option Signal × Broker :=
  match b.acknowledgement with
  | .atOnce =>
    let (signal, b') := b.take r
    (some signal, b')
  | .later => (none, b)
  | .told signal => (some signal, b)

/-- The producer of a broker. -/
def producer : Producer Broker :=
  { create := answering .producerNew fun b => ((), b)
    send := fun r => answering .send (acknowledge r)
    close := fun _ => answering .producerClose fun b => ((), b) }

end Broker

end RecordGateway
