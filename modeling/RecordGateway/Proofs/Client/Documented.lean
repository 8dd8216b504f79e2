import RecordGateway.Client.Consumer
import RecordGateway.Partition.Positions
import RecordGateway.Proofs.Broker.Log

/-!
# What a Consumer Documents

A reader assumes nothing of its consumer, and so nothing could be said about the records
on a page. This file states what a consumer documents: how its answers follow from the
logs of a cluster and from where it stands.

A consumer changes a world of which little is known here. Two things about it matter: at
which offset the consumer stands in which log, and whether the world is one in which the
documentation holds, `ready`. Every call leaves the world ready. Only being given logs
and being moved changes where the consumer stands. What a poll hands out is described
from above alone. It is some run of records from each position on, and together no more
than were asked for; which logs it begins with, and how far it gets, is left open.

## Main definitions

* `Cluster`: the partitions of topics, and their logs.
* `Cluster.Proper`: the ids are distinct and the logs proper.
* `Polled`, `Polled.handedOut`: records of logs, and as a poll hands them out.
* `Documented`: a consumer that answers as documented.
* `Thorough`: such a consumer whose polls of a single log are full.
-/

namespace RecordGateway

variable {σ : Type}

/-- The partitions of topics, and their logs. -/
structure Cluster where
  /-- The ids of a topic's partitions, if the topic exists. -/
  partitions : String → Option (List Int)
  /-- The log of a partition. -/
  log : TopicPartition → Log

namespace Cluster

/-- Whether there is a partition. -/
def Knows (k : Cluster) (name : TopicPartition) : Prop :=
  ∃ ids, k.partitions name.topic = some ids ∧ name.partition ∈ ids

/-- A cluster in order: no id is there twice, and the log of every partition is proper. -/
structure Proper (k : Cluster) : Prop where
  /-- The ids of the partitions of a topic are a set. -/
  distinct : ∀ topic ids, k.partitions topic = some ids → ids.Nodup
  /-- The logs are proper. -/
  logs : ∀ name, k.Knows name → (k.log name).Proper

end Cluster

/-- Records of several logs. -/
abbrev Polled := List (TopicPartition × List StoredRecord)

namespace Polled

/-- The records as a poll hands them out. -/
def handedOut (parts : Polled) : List (TopicPartition × List ConsumedRecord) :=
  parts.map fun part => (part.1, part.2.map (StoredRecord.consume part.1.partition))

/-- The number of records of all logs together. -/
def total (parts : Polled) : Nat :=
  (parts.flatMap Prod.snd).length

/-- The records of the first log are counted, then those of the others. -/
theorem total_cons (name : TopicPartition) (run : List StoredRecord) (parts : Polled) :
    total ((name, run) :: parts) = run.length + total parts := by
  rw [total, List.flatMap_cons, List.length_append]
  rfl

end Polled

/-- A consumer that answers as documented about a cluster, in every world that is ready.
    The position of a log is where the consumer stands in it, if it has taken it on. -/
structure Documented (c : Consumer σ) (k : Cluster)
    (position : σ → TopicPartition → Option Int) (ready : σ → Prop) : Prop where
  /-- A consumer can be made. -/
  create : ∀ s limit, ready s → ∃ s', c.create limit s = (.ok (), s') ∧ ready s'
  /-- The partitions of a topic are those of the cluster. -/
  partitionsOf : ∀ s topic, ready s →
    ∃ s', c.partitionsOf topic s = (.ok (k.partitions topic), s') ∧ ready s'
  /-- In the logs that it takes on, a consumer stands at the beginning. -/
  assign : ∀ s logs, ready s → logs.Nodup → (∀ name ∈ logs, k.Knows name) →
    ∃ s', c.assign logs s = (.ok (), s') ∧ ready s' ∧
      ∀ name, position s' name = if name ∈ logs then some (k.log name).first else none
  /-- For an instant the answer is the first record at or after it, or nothing. -/
  offsetsForTimes : ∀ s asked, ready s → (asked.map Prod.fst).Nodup →
    (∀ pair ∈ asked, k.Knows pair.1) →
    ∃ answer s', c.offsetsForTimes asked s = (.ok answer, s') ∧ ready s' ∧
      position s' = position s ∧
      ∀ pair ∈ asked,
        Positions.foundFor (answer.getD []) pair.1 = (k.log pair.1).offsetAt pair.2
  /-- The ends are those of the logs. -/
  endOffsets : ∀ s logs, ready s → (∀ name ∈ logs, k.Knows name) →
    ∃ ends s', c.endOffsets logs s = (.ok ends, s') ∧ ready s' ∧ position s' = position s ∧
      ∀ name ∈ logs, Entries.get? name ends = some (k.log name).next
  /-- A consumer can be moved in a log that it has taken on, and stands as before in the
      others. -/
  seek : ∀ s name offset, ready s → (position s name).isSome → 0 ≤ offset →
    ∃ s', c.seek name offset s = (.ok (), s') ∧ ready s' ∧
      ∀ other, position s' other = if other = name then some offset else position s other
  /-- A poll hands out runs of records, from where the consumer stands and in order, and no
      more than asked for. -/
  poll : ∀ s timeout limit, ready s → 1 ≤ limit →
    ∃ parts s', c.poll timeout limit s = (.ok (Polled.handedOut parts), s') ∧ ready s' ∧
      (parts.map Prod.fst).Nodup ∧ (parts.total : Int) ≤ limit ∧
      ∀ part ∈ parts, ∃ offset, position s part.1 = some offset ∧
        part.2 <+: (k.log part.1).since offset
  /-- A consumer can be closed. -/
  close : ∀ s, ready s → ∃ s', c.close s = (.ok (), s') ∧ ready s'

/-- A consumer that answers as documented and that, where it stands in one log only, leaves
    no record behind that a poll could hand out. -/
structure Thorough (c : Consumer σ) (k : Cluster) (position : σ → TopicPartition → Option Int)
    (ready : σ → Prop) : Prop extends Documented c k position ready where
  /-- The next records from the position on, as many as asked for or as there are. -/
  full : ∀ s timeout limit name offset, ready s → 1 ≤ limit → k.Knows name →
    (∀ other, position s other = if other = name then some offset else none) →
    ∃ batches s', c.poll timeout limit s = (.ok batches, s') ∧ ready s' ∧
      batches.flatMap Prod.snd =
        (((k.log name).since offset).take limit.toNat).map (StoredRecord.consume name.partition)

end RecordGateway
