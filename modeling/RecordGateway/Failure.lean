import RecordGateway.Fault
import RecordGateway.Json.Reader
import RecordGateway.Number.Spelling
import RecordGateway.Time.Instant
import RecordGateway.Topic

/-!
# Failures of an Operation

Why reading or publishing a record fails. A failure is a cause; its wording,
its standing and its status are functions of the cause.

Failures stand in one of three ways. Failures of the operation itself have a
status and a title of their own. A bad value is the caller's mistake. All else
is unexpected, and is the only standing that the service reports as its own
fault. A send that fails is the service's fault too, except when the broker
does not know the topic or partition.

## Main definitions

* `Failure`: the causes.
* `Failure.message`: the wording of a cause.
* `Failure.standing`: which of the three it is.
* `Failure.status`, `Failure.title`: what a caller is told first.
-/

namespace RecordGateway

/-- Why an operation failed. -/
inductive Failure where
  /-- The topic has no partitions at all. -/
  | noSuchTopic (topic : String)
  /-- No partition of the topic has the id asked for. -/
  | noSuchPartition (topic : String) (partition : Option Int)
  /-- The text does not name an instant. -/
  | badTimestamp (text : LooseText)
  /-- The broker did not take the record. -/
  | sendFailed (topic : String) (cause : Fault)
  /-- The operation failed for a reason given in words. -/
  | operation (reason : String)
  /-- No field of a record has the name. -/
  | unknownField (name : String)
  /-- The broker version in the settings is not made of integers. -/
  | badVersion (error : VersionError)
  /-- A timestamp of the broker lies outside the calendar. -/
  | outOfRange (error : RangeError)
  /-- The client did not report the end of a log that it was asked for. -/
  | missingEnd (log : TopicPartition)
  /-- A setting holds JSON that is nested too deeply. -/
  | tooDeep (container : Json.Container)
  /-- A client raised a fault. -/
  | fault (f : Fault)
  deriving DecidableEq, Repr

/-- How a failure stands to the caller. -/
inductive Standing where
  /-- A failure of the operation, with its own status. -/
  | operation
  /-- A value of the caller that cannot be used. -/
  | badValue
  /-- Anything else. -/
  | unexpected
  deriving DecidableEq, Repr

namespace Failure

/-- The wording of a partition filter. -/
def partitionText : Option Int → String
  | some id => toString id
  | none => "None"

/-- The wording of a failure. -/
def message : Failure → String
  | .noSuchTopic topic => "No such topic: " ++ topic
  | .noSuchPartition topic partition =>
    "No such partition for topic " ++ topic ++ ": " ++ partitionText partition
  | .badTimestamp text =>
    "timestamp must be ISO8601 with a zone offset: " ++ Text.quoted text
  | .sendFailed topic cause => "Failed to send record to topic " ++ topic ++ ": " ++ cause.text
  | .operation reason => reason
  | .unknownField name => Text.quoted name ++ " is not a valid RecordField"
  | .badVersion error => error.message
  | .outOfRange error => error.message
  | .missingEnd log => log.text
  | .tooDeep container => container.tooDeepMessage
  | .fault f => f.text

/-- How a failure stands to the caller. -/
def standing : Failure → Standing
  | .noSuchTopic _ | .noSuchPartition .. | .badTimestamp _ | .sendFailed .. | .operation _ =>
    .operation
  | .unknownField _ | .badVersion _ => .badValue
  | .fault f => if f.kind.isBadValue then .badValue else .unexpected
  | .outOfRange _ | .missingEnd _ | .tooDeep _ => .unexpected

/-- The status of a failure. -/
def status : Failure → Nat
  | .noSuchTopic _ | .noSuchPartition .. => 404
  | .badTimestamp _ => 400
  | .sendFailed _ cause => if cause.kind = .unknownTopicOrPartition then 404 else 500
  | .operation _ => 500
  | f => if f.standing = .badValue then 400 else 500

/-- The title that goes with a status. -/
def titleOf (status : Nat) : String :=
  if status = 404 then "Not Found"
  else if status = 400 then "Bad Request"
  else "Internal Server Error"

/-- The title of a failure. -/
def title (f : Failure) : String :=
  titleOf f.status

end Failure

end RecordGateway
