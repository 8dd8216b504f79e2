import RecordGateway.Http.Service
import RecordGateway.Proofs.Client.Creation
import RecordGateway.Proofs.Json.Sendable

/-!
# Verdicts on a Request

What a request to read or to write comes to, before it is a response. A verdict is found by looking
at the parts that decide it, one after another: the form of the request, the read or the
publication, and how that ended. A response is then made of the verdict alone, and the headers for
other origins are put on it last.

Between the verdict and the response stands the question whether the body can be sent. The texts of
a problem are strings, so only what echoes the caller or the broker is in doubt: the input of an
issue, and the records of a page or of a publication.

## Main definitions

* `Verdict`: what a request comes to.
* `Payload.verdict`: the write request in a body, or why there is none.
* `Service.readVerdict`, `Service.writeVerdict`: what the service makes of a request.
* `Verdict.response?`: the response that a verdict is made into.
* `Service.finished`, `Reply.notices`: what happens to a response on its way out.

## Theorems

* `Service.respond_yields`: a request is answered by following its route and finishing.
* `Service.respond_read`, `Service.respond_write`: the answer is that of the verdict.
-/

namespace RecordGateway

variable {σ : Type}

namespace Http

/-- What a request to read or to write comes to. -/
inductive Verdict where
  /-- The request is not in order. -/
  | invalid (issues : List Issue)
  /-- The body cannot be read as JSON text. -/
  | unreadable
  /-- The body is plain text and cannot be read as such. -/
  | illFormed (e : Text.IllFormed)
  /-- Records were read. -/
  | page (page : Page)
  /-- A record was stored. -/
  | stored (record : Record)
  /-- The read or the publication failed. -/
  | failed (failure : Failure)
  /-- The publication has not ended. -/
  | pending

/-- The response that a verdict is made into; none while there is nothing to tell. -/
def Verdict.response? : Verdict → Option Response
  | .invalid issues => some (Response.issues issues)
  | .unreadable => some (Response.refusal 400 "There was an error parsing the body")
  | .illFormed e => some (Response.ofProblem (Payload.illFormedProblem e))
  | .page found => some (Response.json 200 found.toJson)
  | .stored record => some (Response.json 201 record.toJson)
  | .failed failure => some (Response.problem failure)
  | .pending => none

/-- The write request in the body of a request, or why there is none: the body is missing, it
    cannot be read, or what it holds is no write request. -/
def Payload.verdict (r : Request) : Except Verdict WriteRequest :=
  let checked := fun (c : Checked WriteRequest) =>
    (c.under (.key "body")).toExcept.mapError Verdict.invalid
  if r.body.isEmpty then checked (Checked.complain .missing .null)
  else
    match Payload.value (r.header? "content-type") r.body with
    | .ok v => checked (Payload.ofValue v)
    | .error .undecodable => .error .unreadable
    | .error (.illFormed e) => .error (.illFormed e)
    | .error (.notJson e) => .error (.invalid [Payload.brokenJson e])

/-- A body holds the write request that the verdict names, and otherwise it is answered by the
    verdict on it. -/
theorem Payload.writeRequest_of_verdict (r : Request) :
    match Payload.verdict r with
    | .ok request => Payload.writeRequest r = .ok request
    | .error v => ∃ response, Payload.writeRequest r = .error response ∧
        v.response? = some response := by
  unfold Payload.verdict Payload.writeRequest
  -- A body that is not there is missed before it is read.
  by_cases hempty : r.body.isEmpty
  · simp only [if_pos hempty]
    exact ⟨_, rfl, rfl⟩
  · simp only [if_neg hempty]
    cases Payload.value (r.header? "content-type") r.body with
    | ok v =>
        dsimp only
        cases (Payload.ofValue v).under (.key "body") with
        -- What was read is a write request, or has its issues told under the body.
        | good request => exact rfl
        | bad issues => exact ⟨_, rfl, rfl⟩
    | error unreadable => cases unreadable <;> exact ⟨_, rfl, rfl⟩

end Http

/-- What a publication has come to. -/
def Publication.verdict (p : Publication) : Http.Verdict :=
  match p.outcome with
  | some (.stored record) => .stored record
  | some (.failed failure) => .failed failure
  | none => .pending

namespace Service

open Http

/-- The page that the parameters of a request ask for. -/
def pageOf (s : Service) (c : Consumer σ) (topic : String) (parameters : Parameters) :
    Exchange σ Page := do
  let q ← Exchange.ofExcept (parameters.query topic)
  s.reader.read c q

/-- What the service makes of a request to read. -/
def readVerdict (s : Service) (c : Consumer σ) (topic : String) (r : Request) (world : σ) :
    Verdict :=
  match Parameters.check s.settings.defaultLimit s.settings.maxLimit r.query with
  | .bad issues => .invalid issues
  | .good parameters =>
    match ((s.pageOf c topic parameters).run world).1 with
    | .ok page => .page page
    | .error failure => .failed failure

/-- What the service makes of a request to write. -/
def writeVerdict (s : Service) (p : Producer σ) (topic : String) (r : Request) (world : σ) :
    Verdict :=
  match Payload.verdict r with
  | .error v => v
  | .ok request =>
    match ((s.writer.publish p topic request).run world).1 with
    | .ok publication => publication.verdict
    | .error failure => .failed failure

namespace Reply

/-- The line in a log that goes with a reply: one if nobody expected the failure behind it. -/
def notices (reply : Reply) : List Event :=
  if (reply.response.bind Response.unexpected).isSome then [.notice .unhandled] else []

/-- The response to a publication is that of its verdict. -/
theorem response_ofPublication (p : Publication) :
    (ofPublication p).response = p.verdict.response? := by
  rw [ofPublication, Publication.verdict]
  cases p.outcome with
  | none => rfl
  | some outcome => cases outcome <;> rfl

end Reply

/-- A reply as it leaves the service. -/
def finished (s : Service) (r : Request) (reply : Reply) : Reply :=
  { reply with response := reply.response.map fun response =>
      if response.unexpected.isSome then response
      else response.withHeaders (Cors.headers s.origins r) }

/-- A request that is no question in advance is answered by following its route. The response is
    finished, which adds a line to a log if nobody expected the failure. -/
theorem respond_yields {s : Service} {c : Consumer σ} {p : Producer σ} {r : Request}
    (hmethod : r.method ≠ "OPTIONS") {world world' : σ} {reply : Reply} {es : List Event}
    (h : (s.follow c p r).Yields world reply world' es) :
    (s.respond c p r).Yields world (s.finished r reply) world' (es ++ reply.notices) := by
  -- A question in advance has a method of its own.
  have hquestion : Cors.question? r = none := by
    unfold Cors.question?
    cases r.header? "origin" with
    | none => rfl
    | some origin =>
        cases r.header? "access-control-request-method" with
        | none => rfl
        | some method =>
            simp only [Option.bind_eq_bind, Option.bind_some, if_neg hmethod]
  rw [respond, hquestion]
  refine h.bind ?_
  cases hresponse : reply.response with
  | none =>
      -- While there is no response, there is nothing to finish.
      have hfinished : s.finished r reply = reply := by
        rcases reply with ⟨response, publication⟩
        cases hresponse
        rfl
      rw [hfinished, Reply.notices, hresponse]
      exact Dialogue.Yields.pure reply world'
  | some response =>
      simp only [finished, Reply.notices, hresponse, Option.bind_some, Option.map_some]
      cases hunexpected : response.unexpected with
      | none =>
          have hfinish : (s.finish r response).Yields world'
              (response.withHeaders (Cors.headers s.origins r)) world' [] := by
            rw [finish, hunexpected]
            exact Dialogue.Yields.pure _ world'
          exact hfinish.bind (Dialogue.Yields.pure _ world')
      -- A failure nobody expected goes past what adds the headers, and is written to the log.
      | some failure =>
          have hfinish : (s.finish r response).Yields world' response world'
              ([.notice .unhandled] ++ []) := by
            rw [finish, hunexpected]
            exact (Dialogue.Yields.note .unhandled world').bind (Dialogue.Yields.pure _ world')
          exact hfinish.bind (Dialogue.Yields.pure _ world')

/-! ### Requests to read -/

variable {s : Service} {c : Consumer σ} {p : Producer σ} {r : Request} {topic : String}

/-- A question in advance is routed nowhere, also where its path is known. -/
theorem route_of_options (hmethod : r.method = "OPTIONS") (topic : String) :
    Route.of r ≠ .read topic ∧ Route.of r ≠ .write topic := by
  have hroute : Route.of r = .wrongMethod ∨ (∃ location, Route.of r = .elsewhere location) ∨
      Route.of r = .unknown := by
    rw [Route.of, hmethod]
    cases Route.topic? r.path with
    | some topic => exact Or.inl rfl
    | none =>
        dsimp only
        split
        · exact Or.inr (Or.inl ⟨_, rfl⟩)
        · exact Or.inr (Or.inr rfl)
  rcases hroute with h | ⟨location, h⟩ | h <;> rw [h] <;> exact ⟨nofun, nofun⟩

/-- So a request that is routed to a read is no question. -/
theorem method_of_read (h : Route.of r = .read topic) : r.method ≠ "OPTIONS" :=
  fun hmethod => (route_of_options hmethod topic).1 h

/-- Nor is one that is routed to a publication. -/
theorem method_of_write (h : Route.of r = .write topic) : r.method ≠ "OPTIONS" :=
  fun hmethod => (route_of_options hmethod topic).2 h

/-- The response to a request to read that is in order. -/
def pageResponse : Except Failure Page → Response
  | .ok page => Response.json 200 page.toJson
  | .error failure => Response.problem failure

/-- A request to read that is not in order is answered without a client. -/
theorem respond_read_invalid (hroute : Route.of r = .read topic) {issues : List Issue}
    (hcheck : Parameters.check s.settings.defaultLimit s.settings.maxLimit r.query = .bad issues)
    (world : σ) :
    (s.respond c p r).Yields world (s.finished r (Reply.just (Response.issues issues))) world
      ([] ++ (Reply.just (Response.issues issues)).notices) := by
  refine respond_yields (method_of_read hroute) ?_
  rw [follow, hroute]
  have hread : (s.readRecords c topic r.query).Yields world (Response.issues issues) world [] := by
    unfold readRecords
    rw [hcheck]
    dsimp only [Checked.toExcept]
    exact Dialogue.Yields.pure (Response.issues issues) world
  exact hread.map Reply.just

/-- A request to read that is in order is answered by the page that it asks for. -/
theorem respond_read_asked (hroute : Route.of r = .read topic) {parameters : Parameters}
    (hcheck : Parameters.check s.settings.defaultLimit s.settings.maxLimit r.query =
      .good parameters) {world world' : σ} {result : Except Failure Page} {es : List Event}
    (hpage : (s.pageOf c topic parameters).Yields world result world' es) :
    (s.respond c p r).Yields world (s.finished r (Reply.just (pageResponse result))) world'
      (es ++ (Reply.just (pageResponse result)).notices) := by
  refine respond_yields (method_of_read hroute) ?_
  rw [follow, hroute]
  have hread : (s.readRecords c topic r.query).Yields world (pageResponse result) world'
      (es ++ []) := by
    unfold readRecords
    rw [hcheck]
    dsimp only [Checked.toExcept]
    refine Dialogue.Yields.bind hpage ?_
    cases result <;> exact Dialogue.Yields.pure _ world'
  rw [List.append_nil] at hread
  exact hread.map Reply.just

/-! ### Requests to write -/

/-- The reply to a request to write that is in order. -/
def publicationReply : Except Failure Publication → Reply
  | .ok publication => Reply.ofPublication publication
  | .error failure => Reply.just (Response.problem failure)

/-- A request to write whose body holds no write request is answered without a client. -/
theorem respond_write_refused (hroute : Route.of r = .write topic) {response : Response}
    (hbody : Payload.writeRequest r = .error response) (world : σ) :
    (s.respond c p r).Yields world (s.finished r (Reply.just response)) world
      ([] ++ (Reply.just response).notices) := by
  refine respond_yields (method_of_write hroute) ?_
  rw [follow, hroute]
  dsimp only
  rw [writeRecord, hbody]
  exact Dialogue.Yields.pure _ world

/-- A request to write that is in order is answered by the publication that it starts. -/
theorem respond_write_asked (hroute : Route.of r = .write topic) {request : WriteRequest}
    (hbody : Payload.writeRequest r = .ok request) {world world' : σ}
    {result : Except Failure Publication} {es : List Event}
    (hpublish : (s.writer.publish p topic request).Yields world result world' es) :
    (s.respond c p r).Yields world (s.finished r (publicationReply result)) world'
      (es ++ (publicationReply result).notices) := by
  refine respond_yields (method_of_write hroute) ?_
  rw [follow, hroute]
  dsimp only
  rw [writeRecord, hbody, ← List.append_nil es]
  refine Dialogue.Yields.bind hpublish ?_
  cases result <;> exact Dialogue.Yields.pure _ world'

/-! ### Verdicts -/

/-- A read has an outcome, whatever the consumer does. -/
theorem pageOf_yields (s : Service) (c : Consumer σ) (topic : String) (parameters : Parameters)
    (world : σ) :
    ∃ result world' es, (s.pageOf c topic parameters).Yields world result world' es := by
  unfold pageOf
  cases hquery : parameters.query topic with
  -- The names of the fields cannot be read, and there is no query at all.
  | error failure =>
      exact ⟨_, world, _, Exchange.Yields.bind_error (Exchange.Yields.ofExcept _ world)⟩
  | ok q =>
      -- There is a query; the read checks it before it makes a consumer.
      have hstart := Exchange.Yields.ofExcept (.ok q) world
      cases hchecks : s.reader.checks q with
      | error failure =>
          exact ⟨_, world, _, Exchange.Yields.bind_ok hstart
            (Reader.read_unchecked hchecks c world)⟩
      | ok checked =>
          rcases Reader.read_checked hchecks c world with ⟨result, world', es, hyields, -⟩
          exact ⟨result, world', _, Exchange.Yields.bind_ok hstart hyields⟩

/-- A publication has an outcome, whatever the producer does. -/
theorem publish_yields (w : Writer) (p : Producer σ) (topic : String) (request : WriteRequest)
    (world : σ) :
    ∃ result world' es, (w.publish p topic request).Yields world result world' es := by
  cases hchecks : w.checks request with
  | error failure => exact ⟨_, world, _, Writer.publish_unchecked hchecks p topic world⟩
  | ok checked =>
      rcases checked with ⟨timestamp, headers⟩
      rcases Writer.publish_checked hchecks p topic world with ⟨result, world', es, hyields, -⟩
      exact ⟨result, world', _, hyields⟩

/-- A request to read is answered by the verdict on it. -/
theorem respond_read (hroute : Route.of r = .read topic) (world : σ) :
    ∃ reply, ((s.respond c p r).run world).1 = s.finished r reply ∧
      reply.response = (s.readVerdict c topic r world).response? := by
  unfold readVerdict
  cases hcheck : Parameters.check s.settings.defaultLimit s.settings.maxLimit r.query with
  -- The parameters are not in order, so the consumer is of no account.
  | bad issues =>
      exact ⟨_, congrArg Prod.fst (respond_read_invalid hroute hcheck world).run_eq, rfl⟩
  | good parameters =>
      rcases pageOf_yields s c topic parameters world with ⟨result, world', es, hpage⟩
      refine ⟨_, congrArg Prod.fst (respond_read_asked hroute hcheck hpage).run_eq, ?_⟩
      simp only [hpage.run_eq]
      cases result <;> rfl

/-- A request to write is answered by the verdict on it. -/
theorem respond_write (hroute : Route.of r = .write topic) (world : σ) :
    ∃ reply, ((s.respond c p r).run world).1 = s.finished r reply ∧
      reply.response = (s.writeVerdict p topic r world).response? := by
  unfold writeVerdict
  have hbody := Payload.writeRequest_of_verdict r
  cases hverdict : Payload.verdict r with
  -- The body holds no write request, so the producer is of no account.
  | error v =>
      rw [hverdict] at hbody
      rcases hbody with ⟨response, hresponse, htold⟩
      refine ⟨_, congrArg Prod.fst (respond_write_refused hroute hresponse world).run_eq, ?_⟩
      exact htold.symm
  | ok request =>
      rw [hverdict] at hbody
      rcases publish_yields s.writer p topic request world with ⟨result, world', es, hpublish⟩
      refine ⟨_, congrArg Prod.fst (respond_write_asked hroute hbody hpublish).run_eq, ?_⟩
      simp only [hpublish.run_eq]
      cases result with
      | ok publication => exact Reply.response_ofPublication publication
      | error failure => rfl

end Service

end RecordGateway
