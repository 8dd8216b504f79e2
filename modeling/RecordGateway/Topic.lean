import RecordGateway.Text.Quoted

/-!
# Topics and Partitions

A topic is a named set of partitions, each a log of its own with a numeric id.
A topic's name and a partition's id together name one log.

## Main definitions

* `TopicPartition`: the name of one log.
* `TopicPartition.text`: how messages show it.
-/

namespace RecordGateway

/-- The name of one log: a topic and the id of a partition of it. -/
structure TopicPartition where
  /-- The topic. -/
  topic : String
  /-- The partition's id. -/
  partition : Int
  deriving DecidableEq, Repr

/-- How messages show the name of a log. -/
def TopicPartition.text (tp : TopicPartition) : String :=
  "TopicPartition(topic=" ++ Text.quoted tp.topic ++ ", partition=" ++ toString tp.partition ++ ")"

end RecordGateway
