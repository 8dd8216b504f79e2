import RecordGateway.Client.Consumer
import RecordGateway.Entries

/-!
# Starting Positions

Where a read begins in each of its logs. An instant wins over an offset: the
read begins at the first record at or after it, and at the end of a log that
has none. An offset beyond the end of a log is brought back to the end. With
neither, the consumer stays where it is.

The consumer is asked once about the instant, for all logs, and at most once
about ends, for exactly the logs whose end is needed. An end that it does not
report is a failure, and then no log is moved.

## Main definitions

* `Positions`: an offset for each log.
* `Positions.find`: ask the consumer and work out the positions.
* `Positions.apply`: move the consumer to them.
-/

namespace RecordGateway

/-- A starting offset for each log, in the order of the logs. -/
abbrev Positions := List (TopicPartition × Int)

namespace Positions

variable {σ : Type}

/-- The end of a log among the ends reported. -/
def endOf (ends : List (TopicPartition × Int)) (log : TopicPartition) : Except Failure Int :=
  match Entries.get? log ends with
  | some e => .ok e
  | none => .error (.missingEnd log)

/-- The offset found for a log, if one was. -/
def foundFor (found : List (TopicPartition × Option Int)) (log : TopicPartition) : Option Int :=
  (Entries.get? log found).join

/-- The logs for which no offset was found. -/
def missing (found : List (TopicPartition × Option Int)) (logs : List TopicPartition) :
    List TopicPartition :=
  logs.filter fun log => (foundFor found log).isNone

/-- A position for each log, worked out in order; the first failure counts. -/
def forEach (logs : List TopicPartition) (position : TopicPartition → Except Failure Int) :
    Except Failure Positions := do
  let pairs ← logs.mapM fun log => (position log).map fun offset => (log, offset)
  return Entries.ofPairs pairs

/-- Positions for an instant, from what was found and the ends of the rest. -/
def ofFound (logs : List TopicPartition) (found : List (TopicPartition × Option Int))
    (ends : List (TopicPartition × Int)) : Except Failure Positions :=
  forEach logs fun log =>
    match foundFor found log with
    | some offset => .ok offset
    | none => endOf ends log

/-- Positions for an offset, brought back to the end of each log. -/
def ofOffset (logs : List TopicPartition) (offset : Int) (ends : List (TopicPartition × Int)) :
    Except Failure Positions :=
  forEach logs fun log => (endOf ends log).map fun e => if offset ≤ e then offset else e

/-- Ask the consumer for what is needed and work out the positions. -/
def find (c : Consumer σ) (logs : List TopicPartition) (offset : Option Int)
    (since : Option Instant) : Exchange σ Positions :=
  match since, offset with
  | some t, _ => do
    let asked := Entries.ofPairs (logs.map fun log => (log, t))
    let answer ← Exchange.call (.offsetsForTimes asked) (c.offsetsForTimes asked)
    let found := answer.getD []
    let rest := missing found logs
    let ends ←
      if rest.isEmpty then pure []
      else Exchange.call (.endOffsets rest) (c.endOffsets rest)
    Exchange.ofExcept (ofFound logs found ends)
  | none, some o => do
    let ends ← Exchange.call (.endOffsets logs) (c.endOffsets logs)
    Exchange.ofExcept (ofOffset logs o ends)
  | none, none => pure []

/-- Move the consumer to each position in turn. -/
def apply (c : Consumer σ) : Positions → Exchange σ Unit
  | [] => pure ()
  | (log, offset) :: rest => do
    Exchange.note (.seeking log offset)
    Exchange.call (.seek log offset) (c.seek log offset)
    apply c rest

end Positions

end RecordGateway
