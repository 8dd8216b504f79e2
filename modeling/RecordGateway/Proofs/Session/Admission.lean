import RecordGateway.Proofs.Http.Verdict
import RecordGateway.Proofs.Request.Flaw
import RecordGateway.Proofs.Session.Lifecycle

/-!
# Admission

Bad input never reaches the broker, and good input always does. There are five ways in: a query, a
request to read and one to write, and the two routes of the service. Behind each stands the same
gate. What has a flaw is turned away with the failure that belongs to it; no client is made, nothing
is called, and the world stays as it is. What has no flaw makes one client before anything else, a
consumer to read or a producer to write, and no other client after it.

The ways in differ in what they look at and in which order, and that is all that their theorems say
besides. A form is checked as a whole before anything else, and so it has no flaw that would come
first. The settings come last, because they are looked at when a client is asked for.

## Main definitions

* `Dialogue.Gated`: flaws are turned away, and the rest makes one client.
* `Session.GatesRead`, `Session.GatesWrite`: what becomes of a form.
* `Service.GatesRead`, `Service.GatesWrite`: what becomes of a request to the service.

## Theorems

* `Dialogue.Gated.carry`: what is built around a gate is a gate.
* `Reader.read_gated`, `Reader.read_request_gated`, `Writer.publish_gated`: the gates of calls.
* `Session.readFor_gated`, `Session.write_gated`: the gates of forms.
* `Service.read_gated`, `Service.write_gated`: the gates of routes.
* `admission_exact`: all of them.
-/

namespace RecordGateway

variable {σ α β : Type}

/-- What has a flaw is told so at once, and nothing happens. What has none makes one client, which
    is the first that happens. -/
structure Dialogue.Gated (x : Dialogue σ α) (told : Failure → α) (flaw : Failure → Prop)
    (creation : Event) : Prop where
  /-- A flaw is the answer, without an event. -/
  refused : ∀ failure, flaw failure → ∀ s, x.Yields s (told failure) s []
  /-- Without a flaw a client is made, before all other events, and none of them makes another. -/
  admitted : (∀ failure, ¬ flaw failure) →
    ∀ s, ∃ a s' later, x.Yields s a s' (creation :: later) ∧ ∀ e ∈ later, e.Later

namespace Dialogue.Gated

variable {x : Dialogue σ α} {y : Dialogue σ β} {told : Failure → α} {flaw : Failure → Prop}
  {creation : Event}

/-- After the events of the gate only such may follow as make no client, and after a flaw none. -/
theorem carry (h : x.Gated told flaw creation) (result : α → β) (more : α → List Event)
    (hyields : ∀ {s a s' es}, x.Yields s a s' es → y.Yields s (result a) s' (es ++ more a))
    (hflaw : ∀ failure, flaw failure → more (told failure) = [])
    (hlater : ∀ a, ∀ e ∈ more a, e.Later) :
    y.Gated (fun failure => result (told failure)) flaw creation := by
  refine ⟨?_, ?_⟩
  · intro failure hfailure s
    have hrefused := hyields (h.refused failure hfailure s)
    rwa [hflaw failure hfailure, List.append_nil] at hrefused
  · intro hnone s
    rcases h.admitted hnone s with ⟨a, s', later, hrun, hes⟩
    exact ⟨result a, s', later ++ more a, hyields hrun,
      List.forall_mem_append.mpr ⟨hes, hlater a⟩⟩

/-- What only looks at the answer adds nothing. -/
theorem bind (h : x.Gated told flaw creation) {f : α → Dialogue σ β} (result : α → β)
    (hf : ∀ a s, (f a).Yields s (result a) s []) :
    (x >>= f).Gated (fun failure => result (told failure)) flaw creation := by
  -- No event follows, neither after a flaw nor without one.
  refine h.carry result (fun _ => []) ?_ (fun _ _ => rfl) (fun _ => List.forall_mem_nil _)
  intro s a s' es hrun
  exact hrun.bind (hf a s')

/-- A check in front of a gate makes a wider one. -/
theorem ofExcept_bind {check : Except Failure α} {f : α → Exchange σ β}
    {first second : Failure → Prop} (hcheck : Refuses check first)
    (hf : ∀ a, check = .ok a → Dialogue.Gated (f a).outcome Except.error second creation) :
    Dialogue.Gated (Exchange.ofExcept check >>= f).outcome Except.error (before first second)
      creation := by
  cases hresult : check with
  -- The check fails: its flaw is the only one, and what is behind it is never reached.
  | error e =>
      have he : first e := (hcheck e).mp hresult
      refine ⟨?_, fun hnone => absurd (Or.inl he) (hnone e)⟩
      rintro failure (hfailure | ⟨hnone, -⟩) s
      · have herror := (hcheck failure).mpr hfailure
        rw [hresult] at herror
        cases herror
        exact Exchange.Yields.bind_error (Exchange.Yields.ofExcept (.error e) s)
      · exact absurd he (hnone e)
  -- The check passes: it has no flaw, so the flaws of the whole are those of the gate.
  | ok a =>
      rw [before_of_first_none (hcheck.none_of_ok hresult)]
      have hgate := hf a hresult
      have hstart := fun s : σ => Exchange.Yields.ofExcept (.ok a) s
      refine ⟨?_, ?_⟩
      · intro failure hfailure s
        exact Exchange.Yields.bind_ok (hstart s) (hgate.refused failure hfailure s)
      · intro hnone s
        rcases hgate.admitted hnone s with ⟨result, s', later, hrun, hes⟩
        exact ⟨result, s', later, Exchange.Yields.bind_ok (hstart s) hrun, hes⟩

end Dialogue.Gated

namespace Reader

/-- The checks of a read fail exactly for the flaws of the query, or else of the settings. -/
theorem checks_refuses (r : Reader) (q : Query) :
    Refuses (r.checks q) (before q.Flaw r.settings.Flaw) :=
  q.prepare_refuses.bind fun ⟨_, _⟩ _ => (r.settings.consumer_refuses _).bind_ok

/-- A query is turned away for its flaws, or else for those of the settings. -/
theorem read_gated (r : Reader) (c : Consumer σ) (q : Query) :
    Dialogue.Gated (r.read c q).outcome Except.error (before q.Flaw r.settings.Flaw)
      (.consumerNew (some q.limit)) := by
  refine ⟨?_, ?_⟩
  · intro failure hfailure s
    exact read_unchecked ((r.checks_refuses q failure).mpr hfailure) c s
  · intro hnone s
    rcases (r.checks_refuses q).passes hnone with ⟨checked, hchecked⟩
    exact read_checked hchecked c s

/-- Of a request to read only the timestamp is left to look at. -/
theorem read_request_gated (r : Reader) (c : Consumer σ) (request : ReadRequest) :
    Dialogue.Gated (r.read c (Query.ofRequest request)).outcome Except.error
      (before (Moment.Flaw request.timestamp.toOption) r.settings.Flaw)
      (.consumerNew (some (request.limit.getD ReadRequest.defaultLimit))) := by
  have hflaw : (Query.ofRequest request).Flaw = Moment.Flaw request.timestamp.toOption :=
    Query.flaw_of_fields rfl
  rw [← hflaw]
  exact r.read_gated c (Query.ofRequest request)

end Reader

namespace Writer

/-- The checks of a write fail exactly for the flaws of the request, or else of the settings. -/
theorem checks_refuses (w : Writer) (request : WriteRequest) :
    Refuses (w.checks request) (before request.Flaw w.settings.Flaw) := by
  rw [WriteRequest.Flaw, before_assoc]
  exact (Moment.parse_refuses _).bind fun _ _ =>
    (request.headersOrNone.encode_refuses.mapError _).bind fun _ _ =>
      w.settings.producer_refuses.bind_ok

/-- A request to write is turned away for its flaws, or else for those of the settings. -/
theorem publish_gated (w : Writer) (p : Producer σ) (topic : String) (request : WriteRequest) :
    Dialogue.Gated (w.publish p topic request).outcome Except.error
      (before request.Flaw w.settings.Flaw) .producerNew := by
  refine ⟨?_, ?_⟩
  · intro failure hfailure s
    exact publish_unchecked ((w.checks_refuses request failure).mpr hfailure) p topic s
  · intro hnone s
    rcases (w.checks_refuses request).passes hnone with ⟨⟨timestamp, headers⟩, hchecked⟩
    exact publish_checked hchecked p topic s

end Writer

namespace Session

/-- What a read reports. -/
def pageReport : Except Failure Page → Report
  | .ok page => .page page
  | .error failure => .failure failure

/-- A form to read is turned away with its issues, or else for a flaw of what it says. -/
def GatesRead (s : Session) (form : Json.Members) : Prop :=
  match ReadRequest.check form with
  | .bad issues => ∀ b, (s.act (.readFor form)).Yields b (.malformed issues, s) b []
  | .good request => (s.act (.readFor form)).Gated (fun failure => (.failure failure, s))
      (before (Moment.Flaw request.timestamp.toOption) s.reader.settings.Flaw)
      (.consumerNew (some (request.limit.getD ReadRequest.defaultLimit)))

/-- A form to write is turned away with its issues, or else for a flaw of what it says. -/
def GatesWrite (s : Session) (topic : String) (form : Json.Members) : Prop :=
  match WriteRequest.check form with
  | .bad issues => ∀ b, (s.act (.write topic form)).Yields b
      (.malformed issues, s.withWrite (.unsent (.malformed issues))) b []
  | .good request => (s.act (.write topic form)).Gated
      (fun failure => (.failure failure, s.withWrite (.unsent (.failure failure))))
      (before request.Flaw s.writer.settings.Flaw) .producerNew

/-- The gate of a form to read is that of the request that it holds, whatever is reported. -/
theorem readFor_gated (s : Session) (form : Json.Members) : s.GatesRead form := by
  unfold GatesRead act
  dsimp only
  cases ReadRequest.check form with
  | bad issues =>
      dsimp only [Checked.toExcept]
      exact Dialogue.Yields.pure (Report.malformed issues, s)
  | good request =>
      dsimp only [Checked.toExcept]
      have hread := s.reader.read_request_gated Broker.consumer request
      -- A report is made of the answer, and the session is the one before.
      have hreport := hread.bind (f := fun answer => match answer with
          | .ok page => pure (.page page)
          | .error failure => pure (.failure failure)) pageReport fun answer b => by
        cases answer <;> exact Dialogue.Yields.pure _ b
      exact hreport.bind (fun report => (report, s)) fun report => Dialogue.Yields.pure (report, s)

/-- What a write reports, and the session after it. -/
def publicationReport (s : Session) : Except Failure Publication → Report × Session
  | .ok publication => (.publication publication, s.afterPublication publication)
  | .error failure => (.failure failure, s.withWrite (.unsent (.failure failure)))

/-- The gate of a form to write is that of its request, and the session remembers what came of it.
    -/
theorem write_gated (s : Session) (topic : String) (form : Json.Members) :
    s.GatesWrite topic form := by
  unfold GatesWrite act
  dsimp only
  cases WriteRequest.check form with
  | bad issues =>
      dsimp only [Checked.toExcept]
      exact Dialogue.Yields.pure _
  | good request =>
      dsimp only [Checked.toExcept]
      refine (s.writer.publish_gated Broker.producer topic request).bind s.publicationReport
        fun answer b => ?_
      cases answer <;> exact Dialogue.Yields.pure _ b

end Session

namespace Http

/-- A body that is made by the service is nothing unexpected, whether it can be sent or not. -/
theorem Response.unexpected_json (status : Nat) (value : Json) :
    (json status value).unexpected = none := by
  rw [json]
  cases unsendable? value <;> rfl

/-- What refuses a body is always expected. -/
theorem Payload.unexpected_writeRequest {r : Request} {response : Response}
    (h : writeRequest r = .error response) : response.unexpected = none := by
  -- What is read and is no write request is told with its issues.
  have hrefused : ∀ {c : Checked WriteRequest},
      (c.under (.key "body")).toExcept.mapError Response.issues = .error response →
        response.unexpected = none := by
    intro c hc
    cases hunder : c.under (.key "body") with
    | good request =>
        rw [hunder] at hc
        cases hc
    | bad issues =>
        rw [hunder] at hc
        cases hc
        exact Response.unexpected_json 422 _
  unfold writeRequest at h
  by_cases hempty : r.body.isEmpty
  · rw [if_pos hempty] at h
    exact hrefused h
  · rw [if_neg hempty] at h
    -- A body that is not read is refused in one of three ways, none of them unexpected.
    cases hvalue : Payload.value (r.header? "content-type") r.body with
    | ok v =>
        rw [hvalue] at h
        exact hrefused h
    | error unreadable =>
        rw [hvalue] at h
        cases unreadable with
        | undecodable =>
            cases h
            exact Response.unexpected_json 400 _
        | illFormed e =>
            cases h
            rfl
        | notJson e =>
            cases h
            exact Response.unexpected_json 422 _

/-- A query keeps the timestamp and the limit of its parameters, and names fields that there are.
    -/
theorem Parameters.query_eq_ok {topic : String} {parameters : Parameters} {q : Query}
    (h : parameters.query topic = .ok q) :
    q.timestamp = parameters.timestamp.map .ofString ∧ q.limit = parameters.limit ∧
      ∃ fields : List FieldName, q.fields = fields.map FieldName.name := by
  rw [query] at h
  cases hfields : Inclusion.parse parameters.inclusion with
  | error failure =>
      rw [hfields] at h
      cases h
  | ok fields =>
      rw [hfields] at h
      cases h
      exact ⟨rfl, rfl, fields, rfl⟩

end Http

namespace Service

open Http

variable {s : Service} {c : Consumer σ} {p : Producer σ} {r : Request} {topic : String}

/-- A response that is nothing unexpected is not told of in the log. -/
theorem notices_just {response : Response} (h : response.unexpected = none) :
    (Reply.just response).notices = [] := by
  simp only [Reply.notices, Reply.just, Option.bind_some, h, Option.isSome_none,
    Bool.false_eq_true, if_false]

/-- A failure that somebody expected is not told of in the log. -/
theorem notices_problem {failure : Failure} (h : failure.standing ≠ .unexpected) :
    (Reply.just (Response.problem failure)).notices = [] :=
  notices_just (if_neg h)

/-- A line in the log makes no client. -/
theorem notices_later (reply : Reply) : ∀ e ∈ reply.notices, e.Later := by
  unfold Reply.notices
  split
  · exact List.forall_mem_singleton.mpr rfl
  · exact List.forall_mem_nil _

/-- Parameters are turned away for the first unknown field, or else for the timestamp. -/
theorem pageOf_gated (s : Service) (c : Consumer σ) (topic : String) (parameters : Parameters) :
    Dialogue.Gated (s.pageOf c topic parameters).outcome Except.error
      (before parameters.Flaw s.reader.settings.Flaw) (.consumerNew (some parameters.limit)) := by
  rw [Parameters.Flaw, before_assoc]
  refine Dialogue.Gated.ofExcept_bind (parameters.query_refuses topic) fun q hq => ?_
  -- The fields of the query are named already, so its timestamp is the only flaw that is left.
  rcases Parameters.query_eq_ok hq with ⟨htimestamp, hlimit, fields, hfields⟩
  rw [← htimestamp, ← hlimit, ← Query.flaw_of_fields hfields]
  exact s.reader.read_gated c q

/-- A request to read is turned away with its issues, or else for a flaw of its parameters. -/
def GatesRead (s : Service) (c : Consumer σ) (p : Producer σ) (r : Request) : Prop :=
  match Parameters.check s.settings.defaultLimit s.settings.maxLimit r.query with
  | .bad issues => ∀ world, (s.respond c p r).Yields world
      (s.finished r (.just (Response.issues issues))) world []
  | .good parameters => (s.respond c p r).Gated
      (fun failure => s.finished r (.just (Response.problem failure)))
      (before parameters.Flaw s.reader.settings.Flaw) (.consumerNew (some parameters.limit))

/-- A request to write is turned away as its body is refused, or else for a flaw of what it says. -/
def GatesWrite (s : Service) (c : Consumer σ) (p : Producer σ) (r : Request) : Prop :=
  match Payload.writeRequest r with
  | .error response => ∀ world, (s.respond c p r).Yields world
      (s.finished r (.just response)) world []
  | .ok request => (s.respond c p r).Gated
      (fun failure => s.finished r (.just (Response.problem failure)))
      (before request.Flaw s.writer.settings.Flaw) .producerNew

/-- The route to read is gated: the parameters are checked as a whole first, and the log tells
    nothing of what is turned away. -/
theorem read_gated (hroute : Route.of r = .read topic) : s.GatesRead c p r := by
  unfold GatesRead
  cases hcheck : Parameters.check s.settings.defaultLimit s.settings.maxLimit r.query with
  | bad issues =>
      intro world
      have hnotices : (Reply.just (Response.issues issues)).notices = [] :=
        notices_just (Response.unexpected_json 422 _)
      have hinvalid := respond_read_invalid (c := c) (p := p) hroute hcheck world
      rwa [hnotices] at hinvalid
  | good parameters =>
      refine (s.pageOf_gated c topic parameters).carry _ _ (respond_read_asked hroute hcheck) ?_ ?_
      · exact fun failure hflaw => notices_problem
          (before_imp Parameters.Flaw.expected Settings.Flaw.expected failure hflaw)
      · exact fun answer => notices_later _

/-- The route to write is gated: the body is read first, and the log tells nothing here either. -/
theorem write_gated (hroute : Route.of r = .write topic) : s.GatesWrite c p r := by
  unfold GatesWrite
  cases hbody : Payload.writeRequest r with
  | error response =>
      intro world
      have hnotices : (Reply.just response).notices = [] :=
        notices_just (Payload.unexpected_writeRequest hbody)
      have hrefused := respond_write_refused (s := s) (c := c) (p := p) hroute hbody world
      rwa [hnotices] at hrefused
  | ok request =>
      refine (s.writer.publish_gated p topic request).carry _ _
        (respond_write_asked hroute hbody) ?_ ?_
      · exact fun failure hflaw => notices_problem
          (before_imp WriteRequest.Flaw.expected Settings.Flaw.expected failure hflaw)
      · exact fun answer => notices_later _

end Service

/-- Bad input is turned away with its own failure before there is a client, and good input makes
    exactly one, before anything else: for queries, requests to read, requests to write, forms of
    both, and requests to the service, with every consumer and every producer. -/
theorem admission_exact (r : Reader) (w : Writer) (s : Service) (session : Session)
    (c : Consumer σ) (p : Producer σ) :
    (∀ q, Dialogue.Gated (r.read c q).outcome Except.error (before q.Flaw r.settings.Flaw)
      (.consumerNew (some q.limit))) ∧
    (∀ request, Dialogue.Gated (r.read c (Query.ofRequest request)).outcome Except.error
      (before (Moment.Flaw request.timestamp.toOption) r.settings.Flaw)
      (.consumerNew (some (request.limit.getD ReadRequest.defaultLimit)))) ∧
    (∀ topic request, Dialogue.Gated (w.publish p topic request).outcome Except.error
      (before request.Flaw w.settings.Flaw) .producerNew) ∧
    (∀ form, session.GatesRead form) ∧
    (∀ topic form, session.GatesWrite topic form) ∧
    (∀ topic request, Http.Route.of request = .read topic → s.GatesRead c p request) ∧
    ∀ topic request, Http.Route.of request = .write topic → s.GatesWrite c p request :=
  ⟨r.read_gated c, r.read_request_gated c, w.publish_gated p, session.readFor_gated,
    session.write_gated, fun _ _ => Service.read_gated, fun _ _ => Service.write_gated⟩

/-- A request to read whose timestamp names no instant, for a field and something else. -/
def faultyRead : Http.Request :=
  ⟨"GET", "test", "/api/v1/topics/t/records", "timestamp=never&include=offset,nope", [], []⟩

/-- A request to write without a body. -/
def emptyWrite : Http.Request :=
  ⟨"POST", "test", "/api/v1/topics/t/records", "", [], []⟩

/-- The service reports the field, and a reader by itself the timestamp. -/
theorem admission_exact_two_flaws :
    Http.Route.of faultyRead = .read "t" ∧ Http.Route.of emptyWrite = .write "t" ∧
    (∀ b, ((Service.of {}).respond Broker.consumer Broker.producer faultyRead).Yields b
      ((Service.of {}).finished faultyRead
        (.just (Http.Response.problem (.unknownField "nope")))) b []) ∧
    (∀ b, Exchange.Yields ((Service.of {}).reader.read Broker.consumer
        { topic := "t", timestamp := some (.ofString "never"), fields := ["offset", "nope"] }) b
      (.error (.badTimestamp (.ofString "never"))) b []) ∧
    ∀ b, ((Service.of {}).respond Broker.consumer Broker.producer emptyWrite).Yields b
      ((Service.of {}).finished emptyWrite
        (.just (Http.Response.issues [⟨.missing, [.key "body"], .null⟩]))) b [] := by
  have hread : Http.Route.of faultyRead = .read "t" := by decide +kernel
  have hwrite : Http.Route.of emptyWrite = .write "t" := by decide +kernel
  rcases admission_exact (Service.of {}).reader (Service.of {}).writer (Service.of {})
    Session.sampleSession Broker.consumer Broker.producer with
    ⟨hquery, -, -, -, -, hroute, hroute'⟩
  have hoffset : ∀ failure, ¬ FieldName.Flaw "offset" failure := by
    rintro _ ⟨hnone⟩
    exact hnone .offset rfl
  have hnope : FieldName.Flaw "nope" (.unknownField "nope") := by
    refine ⟨fun field => ?_⟩
    cases field <;> decide
  refine ⟨hread, hwrite, ?_, ?_, ?_⟩
  · have hgate := hroute "t" faultyRead hread
    have hcheck : Http.Parameters.check (Service.of {}).settings.defaultLimit
        (Service.of {}).settings.maxLimit faultyRead.query =
          .good ⟨none, none, some "never", 50, ["offset,nope"]⟩ := rfl
    have hnames : Inclusion.names ["offset,nope"] = ["offset", "nope"] := by decide +kernel
    have hflaw : Http.Parameters.Flaw ⟨none, none, some "never", 50, ["offset,nope"]⟩
        (.unknownField "nope") := by
      rw [Http.Parameters.Flaw, hnames]
      exact Or.inl (Or.inr ⟨hoffset, Or.inl hnope⟩)
    unfold Service.GatesRead at hgate
    rw [hcheck] at hgate
    exact hgate.refused _ (Or.inl hflaw)
  · have hnever : (LooseText.ofString "never").toString?.bind Instant.parse? = none := by
      decide +kernel
    exact (hquery _).refused _ (Or.inl (Or.inl ⟨hnever⟩))
  · have hgate := hroute' "t" emptyWrite hwrite
    have hbody : Http.Payload.writeRequest emptyWrite =
        .error (Http.Response.issues [⟨.missing, [.key "body"], .null⟩]) := rfl
    unfold Service.GatesWrite at hgate
    rw [hbody] at hgate
    exact hgate

/-- A form to write with a header whose value is half of a surrogate pair. -/
def halfHeader : Json.Members :=
  [("value", .str "v"), ("headers", .obj [("a", .str ⟨[.half ⟨0⟩]⟩)])]

/-- The form is in order and has no timestamp, and still there is no producer. -/
theorem half_header_makes_no_producer :
    (∃ request, WriteRequest.check halfHeader = .good request ∧ request.timestamp = .unset) ∧
    ∀ b, ((Session.sampleSession.act (.write "t" halfHeader)).run b).2.events = [] := by
  have hcheck : WriteRequest.check halfHeader = .good
      ⟨.unset, .unset, .unset, .ofString "v", some [(.ofString "a", ⟨[.half ⟨0⟩]⟩)]⟩ := rfl
  refine ⟨⟨_, hcheck, rfl⟩, fun b => ?_⟩
  rfl

end RecordGateway
