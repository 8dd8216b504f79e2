import RecordGateway.Broker.Clients
import RecordGateway.Http.Service

/-!
# Sessions

A session is a sequence of turns against one broker: reads, writes, signals for
sends that are still under way, and requests over HTTP. Each turn has a result
and shows the events that happened in it.

Writes are numbered as they are asked for, whatever comes of them, and sends as
producers take them on, those of the service included. A write knows the number
of its send, so that its state is that of the publication now. A write that
never led to a send keeps the state it had at once.

## Main definitions

* `Action`, `Turn`: what is asked for, and under which conditions.
* `Report`: the result of a turn.
* `Session`: the broker, those who use it, the sends and the writes.
* `Session.act`: do what is asked for.
* `Session.perform`: take a turn.
-/

namespace RecordGateway

/-- What a turn of a session asks for. -/
inductive Action where
  /-- Read a page. -/
  | read (query : Query)
  /-- Read a page for a request given as a form. -/
  | readFor (form : Json.Members)
  /-- Write a record for a request given as a form. -/
  | write (topic : String) (form : Json.Members)
  /-- Signal the end of a send, and show a write. -/
  | signal (send : Nat) (signal : Signal) (write : Nat)
  /-- Show a write. -/
  | look (write : Nat)
  /-- Request something over HTTP. -/
  | request (r : Http.Request)

/-- What a turn asks for, and the conditions under which it is done. -/
structure Turn where
  /-- What is asked for. -/
  action : Action
  /-- The faults that calls raise in this turn. -/
  faults : List (Call × Fault)
  /-- What becomes of sends in this turn. -/
  acknowledgement : Acknowledgement
  /-- The instant that it is from now on, if it changes. -/
  clock : Option Instant

/-- The result of a turn. -/
inductive Report where
  /-- A page. -/
  | page (p : Page)
  /-- The issues of a form. -/
  | malformed (issues : List Issue)
  /-- A failure before there was anything to report on. -/
  | failure (f : Failure)
  /-- A publication as it is now. -/
  | publication (p : Publication)
  /-- A response, once there is one. -/
  | response (r : Option Http.Response)
  /-- Nothing, for a number that was not given out. -/
  | nothing

/-- What came of a write. -/
inductive Write where
  /-- It never led to a send; its result stays the same. -/
  | unsent (result : Report)
  /-- It led to the send with a number. -/
  | sent (send : Nat)

/-- A broker, those who use it, the sends and the writes. -/
structure Session where
  /-- What reads records. -/
  reader : Reader
  /-- What writes records. -/
  writer : Writer
  /-- What answers requests. -/
  service : Service
  /-- The broker that all of them use. -/
  broker : Broker
  /-- Whether the service has been made ready. -/
  serving : Bool := false
  /-- The publications that producers took on, in order. -/
  sends : List Publication := []
  /-- The writes, in order. -/
  writes : List Write := []

namespace Session

/-- The session with a publication added to its sends, if a producer took it
    on. -/
def withSend (s : Session) (p : Publication) : Session :=
  if p.handedOver then { s with sends := s.sends ++ [p] } else s

/-- The session with a write added. -/
def withWrite (s : Session) (w : Write) : Session :=
  { s with writes := s.writes ++ [w] }

/-- The state of a write. -/
def stateOf (s : Session) (write : Nat) : Report :=
  match s.writes[write]? with
  | some (.unsent result) => result
  | some (.sent n) => (s.sends[n]?.map Report.publication).getD .nothing
  | none => .nothing

/-- The session after a write that led to a publication. -/
def afterPublication (s : Session) (p : Publication) : Session :=
  if p.handedOver then (s.withSend p).withWrite (.sent s.sends.length)
  else s.withWrite (.unsent (.publication p))

/-- Read a page. -/
def read (s : Session) (q : Query) : Dialogue Broker Report := do
  match ← (s.reader.read Broker.consumer q).outcome with
  | .ok page => return .page page
  | .error f => return .failure f

/-- Write a record for a request. -/
def write (s : Session) (topic : String) (r : WriteRequest) :
    Dialogue Broker (Report × Session) := do
  match ← (s.writer.publish Broker.producer topic r).outcome with
  | .ok p => return (.publication p, s.afterPublication p)
  | .error f => return (.failure f, s.withWrite (.unsent (.failure f)))

/-- Signal the end of a send. -/
def signal (s : Session) (send : Nat) (signal : Signal) : Dialogue Broker Session := do
  match s.sends[send]? with
  | none => return s
  | some p =>
    let p' ← p.receive signal Broker.producer.close
    return { s with sends := s.sends.set send p' }

/-- Make the service ready, if it is not. -/
def serve (s : Session) : Dialogue Broker Session := do
  if s.serving then return s
  else
    Dialogue.note s.service.readyNotice
    return { s with serving := true }

/-- Answer a request over HTTP. -/
def request (s : Session) (r : Http.Request) : Dialogue Broker (Report × Session) := do
  let ready ← s.serve
  let reply ← ready.service.respond Broker.consumer Broker.producer r
  let after := match reply.publication with
    | some p => ready.withSend p
    | none => ready
  return (.response reply.response, after)

/-- Do what is asked for. -/
def act (s : Session) : Action → Dialogue Broker (Report × Session)
  | .read q => do return (← s.read q, s)
  | .readFor form =>
    match (ReadRequest.check form).toExcept with
    | .ok r => do return (← s.read (Query.ofRequest r), s)
    | .error issues => return (.malformed issues, s)
  | .write topic form =>
    match (WriteRequest.check form).toExcept with
    | .ok r => s.write topic r
    | .error issues => return (.malformed issues, s.withWrite (.unsent (.malformed issues)))
  | .signal send signal write => do
    let after ← s.signal send signal
    return (after.stateOf write, after)
  | .look write => return (s.stateOf write, s)
  | .request r => s.request r

/-- Take a turn: its result, the events in it, and the session after it. -/
def perform (s : Session) (t : Turn) : (Report × List Event) × Session :=
  let broker := { s.broker.during t.faults t.acknowledgement with
    clock := t.clock.getD s.broker.clock }
  let ((report, after), progress) := (s.act t.action).run broker
  ((report, progress.events), { after with broker := progress.world })

/-- Take turns one after another: the results and events of each. -/
def run (s : Session) : List Turn → List (Report × List Event)
  | [] => []
  | t :: rest =>
    let (shown, after) := s.perform t
    shown :: after.run rest

end Session

end RecordGateway
