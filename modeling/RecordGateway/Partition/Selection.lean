import RecordGateway.Failure

/-!
# Selecting Partitions

A read takes in the partitions of a topic, or the one that a filter names, in
ascending order of their ids. A topic without partitions is reported before the
filter is looked at.

## Main definitions

* `Selection.logs`: the logs that a read takes in.
-/

namespace RecordGateway

namespace Selection

/-- Partition ids in ascending order, repeats kept. -/
def ascending (ids : List Int) : List Int :=
  ids.mergeSort (· ≤ ·)

/-- Whether a filter lets an id through; no filter lets all through. -/
def admits (filter : Option Int) (id : Int) : Bool :=
  match filter with
  | none => true
  | some wanted => id == wanted

/-- The logs of a topic that a read takes in, given the ids of its partitions
    if the topic is known. -/
def logs (topic : String) (available : Option (List Int)) (filter : Option Int) :
    Except Failure (List TopicPartition) :=
  let ids := ascending (available.getD [])
  if ids.isEmpty then .error (.noSuchTopic topic)
  else
    let selected := ids.filter (admits filter)
    if selected.isEmpty then .error (.noSuchPartition topic filter)
    else .ok (selected.map fun id => ⟨topic, id⟩)

end Selection

end RecordGateway
