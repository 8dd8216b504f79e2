import RecordGateway.Client.Consumer
import RecordGateway.Http.Cors
import RecordGateway.Http.Parameters
import RecordGateway.Http.Payload
import RecordGateway.Http.Route
import RecordGateway.Publishing

/-!
# The Service

The service reads and writes records for callers over HTTP. A request that is
not in order is answered without a client of the broker. Otherwise the status of
the response tells what became of the read or the publication, and a failure is
told in a problem document.

A write is answered when its publication is settled. Until then it has no
response, and none is made up.

A failure that nobody expected is answered outside of everything else, so that
its response bears no headers for other origins, and a line in the log tells of
it.

## Main definitions

* `Service`: a reader, a writer and the origins that may call.
* `Service.of`: the service with some settings.
* `Service.Reply`: what became of a request.
* `Service.respond`: answer a request.
-/

namespace RecordGateway

/-- A reader, a writer and the rules for callers. -/
structure Service where
  /-- The settings. -/
  settings : Settings
  /-- What reads records. -/
  reader : Reader
  /-- What writes records. -/
  writer : Writer
  /-- The origins that may call from a browser. -/
  origins : List LooseText

namespace Service

open Http

/-- The origins that may call when the settings name none. -/
def defaultOrigins : List LooseText :=
  ["http://localhost:3000", "http://127.0.0.1:3000"]

/-- The service with some settings. -/
def of (s : Settings) : Service :=
  { settings := s
    reader := ⟨s, .whole s.pollTimeout⟩
    writer := ⟨s, .real s.closeTimeout⟩
    origins := match s.origins with
      | none | some [] => defaultOrigins
      | some os => os }

/-- The line in the log when the service is ready. -/
def readyNotice (s : Service) : Notice :=
  .ready s.settings.bootstrap

/-- What became of a request. -/
structure Reply where
  /-- The response; none while a publication is pending. -/
  response : Option Response
  /-- The publication that was started, if one was. -/
  publication : Option Publication := none

namespace Reply

/-- A response and nothing else. -/
def just (r : Response) : Reply :=
  { response := some r }

/-- The response to a settled publication. -/
def outcomeResponse : Outcome → Response
  | .stored record => Response.json 201 record.toJson
  | .failed f => Response.problem f

/-- The reply to a request that started a publication. -/
def ofPublication (p : Publication) : Reply :=
  { response := p.outcome.map outcomeResponse, publication := some p }

end Reply

variable {σ : Type}

/-- Read records as the parameters of a request say. -/
def readRecords (s : Service) (c : Consumer σ) (topic query : String) :
    Dialogue σ Response := do
  match (Parameters.check s.settings.defaultLimit s.settings.maxLimit query).toExcept with
  | .error issues => return Response.issues issues
  | .ok parameters =>
    let page : Exchange σ Page := do
      let q ← Exchange.ofExcept (parameters.query topic)
      s.reader.read c q
    match ← page.outcome with
    | .ok page => return Response.json 200 page.toJson
    | .error f => return Response.problem f

/-- Write the record in the body of a request. -/
def writeRecord (s : Service) (p : Producer σ) (topic : String) (r : Request) :
    Dialogue σ Reply := do
  match Payload.writeRequest r with
  | .error response => return Reply.just response
  | .ok request =>
    match ← (s.writer.publish p topic request).outcome with
    | .ok publication => return Reply.ofPublication publication
    | .error f => return Reply.just (Response.problem f)

/-- Follow the route of a request. -/
def follow (s : Service) (c : Consumer σ) (p : Producer σ) (r : Request) : Dialogue σ Reply :=
  match Route.of r with
  | .read topic => Reply.just <$> s.readRecords c topic r.query
  | .write topic => s.writeRecord p topic r
  | .wrongMethod =>
    pure (Reply.just ((Response.refusal 405 "Method Not Allowed").withHeaders [("allow", "GET")]))
  | .elsewhere location => pure (Reply.just ⟨307, [("location", location)], .text "", none⟩)
  | .unknown => pure (Reply.just (Response.refusal 404 "Not Found"))

/-- The response as it leaves the service: with headers for the origin that
    calls, unless nobody expected the failure behind it. -/
def finish (s : Service) (r : Request) (response : Response) : Dialogue σ Response :=
  match response.unexpected with
  | some _ => do
    Dialogue.note .unhandled
    return response
  | none => return response.withHeaders (Cors.headers s.origins r)

/-- Answer a request. -/
def respond (s : Service) (c : Consumer σ) (p : Producer σ) (r : Request) : Dialogue σ Reply :=
  match Cors.question? r with
  | some (origin, method) => return Reply.just (Cors.preflight s.origins r origin method)
  | none => do
    let reply ← s.follow c p r
    match reply.response with
    | none => return reply
    | some response =>
      let finished ← s.finish r response
      return { reply with response := some finished }

end Service

end RecordGateway
