import RecordGateway.Text.Quoted

/-!
# Faults of a Broker Client

Whatever a client of the broker raises is a fault: a kind and an optional
message. Nine kinds belong to the broker's own family, of which five carry a
numeric code from the wire; six are general. The family decides what becomes
of a fault when a producer is created, and the kind decides the status that a
caller sees.

## Main definitions

* `FaultKind`: the kinds of fault.
* `FaultKind.isBrokerError`: the broker's own family.
* `Fault`: a kind and a message.
* `Fault.text`: the wording of a fault.
-/

namespace RecordGateway

/-- What kind of fault a client raised. -/
inductive FaultKind where
  /-- A failure at run time. -/
  | runtime
  /-- A value that cannot be used. -/
  | badValue
  /-- A text that has no UTF-8 form. -/
  | unencodable
  /-- An assertion that failed. -/
  | assertion
  /-- A value of the wrong type. -/
  | badType
  /-- A key that is missing. -/
  | missingKey
  /-- A broker error of no particular kind. -/
  | broker
  /-- The broker did not answer in time. -/
  | timeout
  /-- The broker cannot be reached. -/
  | connection
  /-- The client is in the wrong state for the call. -/
  | illegalState
  /-- The topic or partition is unknown to the broker. -/
  | unknownTopicOrPartition
  /-- The broker asked does not lead the partition. -/
  | notLeader
  /-- The record is too large. -/
  | messageTooLarge
  /-- Access to the topic is denied. -/
  | topicAuthorization
  /-- The topic's identifier is unknown to the broker. -/
  | unknownTopicId
  deriving DecidableEq, Repr

namespace FaultKind

/-- The name of a kind in messages. -/
def name : FaultKind → String
  | .runtime => "RuntimeError"
  | .badValue => "ValueError"
  | .unencodable => "UnicodeEncodeError"
  | .assertion => "AssertionError"
  | .badType => "TypeError"
  | .missingKey => "KeyError"
  | .broker => "KafkaError"
  | .timeout => "KafkaTimeoutError"
  | .connection => "KafkaConnectionError"
  | .illegalState => "IllegalStateError"
  | .unknownTopicOrPartition => "UnknownTopicOrPartitionError"
  | .notLeader => "NotLeaderForPartitionError"
  | .messageTooLarge => "MessageSizeTooLargeError"
  | .topicAuthorization => "TopicAuthorizationFailedError"
  | .unknownTopicId => "UnknownTopicIdError"

/-- All kinds of fault. -/
def all : List FaultKind :=
  [.runtime, .badValue, .unencodable, .assertion, .badType, .missingKey, .broker, .timeout,
   .connection, .illegalState, .unknownTopicOrPartition, .notLeader, .messageTooLarge,
   .topicAuthorization, .unknownTopicId]

/-- The kind with a name. -/
def ofName? (name : String) : Option FaultKind :=
  all.find? (·.name = name)

/-- The code that the broker sends for a kind, if it has one. -/
def code? : FaultKind → Option Nat
  | .unknownTopicOrPartition => some 3
  | .notLeader => some 6
  | .messageTooLarge => some 10
  | .topicAuthorization => some 29
  | .unknownTopicId => some 100
  | _ => none

/-- The kinds of the broker's own family. -/
def isBrokerError : FaultKind → Bool
  | .runtime | .badValue | .unencodable | .assertion | .badType | .missingKey => false
  | _ => true

/-- The kinds that say that a value cannot be used. -/
def isBadValue : FaultKind → Bool
  | .badValue | .unencodable => true
  | _ => false

end FaultKind

/-- What a client raised: a kind and perhaps a message. -/
structure Fault where
  /-- The kind of fault. -/
  kind : FaultKind
  /-- The message it was raised with, if any. -/
  message : Option String
  deriving DecidableEq, Repr

/-- The fault of a text that has no UTF-8 form. -/
def Fault.unencodable (e : LooseText.Unencodable) : Fault :=
  ⟨.unencodable, some e.message⟩

/-- The wording of a fault. The broker's family names its kind, with the code
    before it and the message after; a missing key is quoted; the other kinds
    say their message alone. -/
def Fault.text (f : Fault) : String :=
  if f.kind.isBrokerError then
    let code := match f.kind.code? with
      | some n => "[Error " ++ toString n ++ "] "
      | none => ""
    let message := match f.message with
      | some m => ": " ++ m
      | none => ""
    code ++ f.kind.name ++ message
  else if f.kind = .missingKey then (f.message.map fun m => Text.quoted m).getD ""
  else f.message.getD ""

end RecordGateway
