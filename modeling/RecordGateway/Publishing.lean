import RecordGateway.Client.Producer
import RecordGateway.Connection
import RecordGateway.Record.Reported
import RecordGateway.Request.Moment
import RecordGateway.Request.Write

/-!
# Publishing a Record

A writer makes a producer for each record. Handing over the record starts a
publication, which is pending until the producer signals how the send ended. The
first signal settles it: the producer is closed, and then the outcome is there
for good. Signals that come later, or again, change nothing. That a publication
is settled can be seen, so it can be seen that closing comes first.

A send that fails at once settles its publication in the same way, and so does a
value or a key that has no UTF-8 form. A broker that cannot be reached settles it
without a producer. What the caller got wrong, headers without a UTF-8 form
included, and any other failure to make a producer, starts no publication at all.

A delivered record whose timestamp lies outside the calendar cannot be shown.
Then the callback fails, and the publication stays as it was.

## Main definitions

* `Publication`: a record on its way.
* `Publication.storedRecord`: the record that the caller is shown.
* `Publication.resolve`: fix the outcome.
* `Publication.settle`, `Publication.receive`: what a signal does.
* `Writer`: the settings and the patience of a writer.
* `Writer.publish`: start a publication.
-/

namespace RecordGateway

/-- A record on its way to the broker. -/
structure Publication where
  /-- The topic. -/
  topic : String
  /-- The request that it answers. -/
  request : WriteRequest
  /-- The time that the producer is given to close. -/
  closeTimeout : Number
  /-- Whether a producer took on the record, so that signals can come. -/
  handedOver : Bool
  /-- How it ended, once it has. -/
  outcome : Option Outcome
  deriving DecidableEq, Repr

namespace Publication

variable {σ : Type}

/-- The record that the caller is shown: where the broker stored it, and what
    the request said. The kind of timestamp is not known here. -/
def storedRecord (p : Publication) (m : Metadata) : Except RangeError Record := do
  let timestamp ← Reported.timestamp m.timestamp
  return {
    partition := .ofOption m.partition
    offset := Reported.offset m.offset
    timestamp := timestamp
    key := .ofOption p.request.key.toOption
    value := .value p.request.value
    headers := .value p.request.headersOrNone }

/-- Fix the outcome of a publication, and tell whoever waits for it. -/
def resolve (p : Publication) (outcome : Outcome) : Dialogue σ Publication := do
  Dialogue.record (.settled outcome)
  return { p with outcome := some outcome }

/-- Settle a pending publication: close the producer, then fix the outcome. A
    settled one stays as it is. -/
def settle (p : Publication) (outcome : Outcome) (close : Number → Answer σ Unit) :
    Dialogue σ Publication :=
  match p.outcome with
  | some _ => pure p
  | none => do
    Dialogue.record (.producerClose p.closeTimeout)
    match ← Dialogue.attempt (close p.closeTimeout) with
    | .ok () => pure ()
    | .error _ => Dialogue.note .closeFailed
    p.resolve outcome

/-- What a signal does to a publication. -/
def receive (p : Publication) (signal : Signal) (close : Number → Answer σ Unit) :
    Dialogue σ Publication :=
  match signal with
  | .delivered metadata =>
    match p.storedRecord metadata with
    | .ok record => p.settle (.stored record) close
    | .error e => do
      Dialogue.record (.callbackFailed e)
      return p
  | .refused cause => do
    Dialogue.note (.sendFailed p.topic cause)
    p.settle (.failed (.sendFailed p.topic cause)) close

end Publication

/-- The settings and the patience of a writer. -/
structure Writer where
  /-- How to reach the broker. -/
  settings : Settings
  /-- The seconds that a producer is given to close. -/
  closeTimeout : Number

namespace Writer

variable {σ : Type}

/-- The record that a request asks to send, given its timestamp and its headers
    as they are sent; the value, or else the key, may have no UTF-8 form. -/
def outgoing (topic : String) (request : WriteRequest) (timestamp : Option Instant)
    (headers : List (LooseText × Bytes)) : Except LooseText.Unencodable Outgoing := do
  let value ← request.value.encode
  let key ← request.key.toOption.mapM LooseText.encode
  return {
    topic := topic
    value := value
    key := key
    partition := request.partition.toOption
    timestamp := timestamp
    headers := headers }

/-- Hand a record to a producer that is there, and act on what it signals at
    once. A failure to take it on is a signal too, and so is a text that the
    producer cannot write. -/
def send (w : Writer) (p : Producer σ) (topic : String) (request : WriteRequest)
    (timestamp : Option Instant) (headers : List (LooseText × Bytes)) :
    Dialogue σ Publication := do
  let unsent : Publication :=
    { topic := topic, request := request, closeTimeout := w.closeTimeout, handedOver := false
      outcome := none }
  match outgoing topic request timestamp headers with
  | .error e => unsent.receive (.refused (.unencodable e)) p.close
  | .ok record => do
    Dialogue.record (.send record)
    match ← Dialogue.attempt (p.send record) with
    | .error f => unsent.receive (.refused f) p.close
    | .ok signal? =>
      let pending := { unsent with handedOver := true }
      match signal? with
      | none => return pending
      | some signal => pending.receive signal p.close

/-- Start a publication: check the request, make a producer, and hand it the
    record. -/
def publish (w : Writer) (p : Producer σ) (topic : String) (request : WriteRequest) :
    Exchange σ Publication := do
  let timestamp ← Exchange.ofExcept (Moment.parse request.timestamp.toOption)
  let headers ← Exchange.ofExcept
    (request.headersOrNone.encode.mapError fun e => .fault (.unencodable e))
  let _ ← Exchange.ofExcept ((Connection.producer w.settings).mapError .badVersion)
  Exchange.record .producerNew
  match ← Exchange.attempt p.create with
  | .ok () => Exchange.ofDialogue <| w.send p topic request timestamp headers
  | .error f =>
    if f.kind.isBrokerError then
      let unmade : Publication :=
        { topic := topic, request := request, closeTimeout := w.closeTimeout, handedOver := false
          outcome := none }
      Exchange.ofDialogue <| unmade.resolve (.failed (.sendFailed topic f))
    else throw (.fault f)

end Writer

end RecordGateway
