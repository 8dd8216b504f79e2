import RecordGateway.Broker.Clients
import RecordGateway.Proofs.Entries
import RecordGateway.Proofs.Form.Issues
import RecordGateway.Proofs.Http.Verdict

/-!
# What a Caller Is Told

The response to a request to read or to write tells exactly what the request came to. A status says
which of the ends it was, and no two ends share one: 422 for a request that is not in order, 200 for
a page, 201 for a stored record, and for everything else a status that no success has, with a
problem document that repeats it and says why.

The status of a failure is stated once more here, cause by cause, and not read off the definition.
Of the failures of an operation each has its own. What a caller can mend is a 400. Everything else
is the service's fault, and that includes whatever a client of the broker raises, unless it says
that a value cannot be used.

Two limits are part of the design. A body that cannot be read as text in the encoding of JSON is
refused before there is anything to check, with a 400 that is no problem document. And what echoes
the caller or the broker may hold half of a surrogate pair or a number that is not finite; a body
with one of these cannot be sent. The parameters of a read are never such a case.

## Main definitions

* `Failure.Owes`: the status of a failure, cause by cause.
* `Response.Carries`, `Response.Explains`: a response with a JSON body, and with a problem.
* `Verdict.Meets`: the response that a verdict asks for.
* `Verdict.Sendable`: the body of the response can be sent.
* `Verdict.Answered`: a verdict is told exactly.

## Theorems

* `Failure.owes_status`: every failure has the status that it owes.
* `Verdict.answered`: the response made of a verdict tells it exactly.
* `Service.respond_tells_outcome`: so does the service.
* `Service.unreadable_body_refused`: where the limits show.
-/

namespace RecordGateway

variable {σ : Type}

/-- The status that a failure owes to a caller. -/
inductive Failure.Owes : Failure → Nat → Prop where
  | noSuchTopic (topic : String) : Owes (.noSuchTopic topic) 404
  | noSuchPartition (topic : String) (partition : Option Int) :
      Owes (.noSuchPartition topic partition) 404
  | badTimestamp (text : LooseText) : Owes (.badTimestamp text) 400
  | sentToUnknown (topic : String) {cause : Fault} (h : cause.kind = .unknownTopicOrPartition) :
      Owes (.sendFailed topic cause) 404
  | sendFailed (topic : String) {cause : Fault} (h : cause.kind ≠ .unknownTopicOrPartition) :
      Owes (.sendFailed topic cause) 500
  | operation (reason : String) : Owes (.operation reason) 500
  | badValue {failure : Failure} (h : failure.standing = .badValue) : Owes failure 400
  | unexpected {failure : Failure} (h : failure.standing = .unexpected) : Owes failure 500

/-- Every failure has the status that it owes. -/
theorem Failure.owes_status (failure : Failure) : failure.Owes failure.status := by
  cases failure with
  | noSuchTopic topic => exact .noSuchTopic topic
  | noSuchPartition topic partition => exact .noSuchPartition topic partition
  | badTimestamp text => exact .badTimestamp text
  | sendFailed topic cause =>
      by_cases h : cause.kind = .unknownTopicOrPartition
      · simp only [status, if_pos h]
        exact .sentToUnknown topic h
      · simp only [status, if_neg h]
        exact .sendFailed topic h
  | operation reason => exact .operation reason
  | unknownField name => exact .badValue rfl
  | badVersion error => exact .badValue rfl
  | outOfRange error => exact .unexpected rfl
  | missingEnd log => exact .unexpected rfl
  | tooDeep container => exact .unexpected rfl
  | fault f =>
      -- A client that raises says either that a value is bad or nothing that was expected.
      by_cases h : f.kind.isBadValue
      · have hstanding : (Failure.fault f).standing = .badValue := if_pos h
        simp only [status, if_pos hstanding]
        exact .badValue hstanding
      · have hstanding : (Failure.fault f).standing = .unexpected := if_neg h
        simp only [status, hstanding, reduceCtorEq, if_false]
        exact .unexpected hstanding

/-- A failure owes one of three statuses, none of which a success has. -/
theorem Failure.Owes.mem {failure : Failure} {status : Nat} (h : failure.Owes status) :
    status = 400 ∨ status = 404 ∨ status = 500 := by
  cases h <;> omega

namespace Http

namespace Response

/-- A response with a status, a type and a JSON body. -/
structure Carries (response : Response) (status : Nat) (type : String) (body : Json) : Prop where
  status : response.status = status
  type : Entries.get? "content-type" response.headers = some type
  content : response.content = .json body

/-- A response with a problem document that repeats the status and gives the detail. -/
def Explains (response : Response) (status : Nat) (detail : Option String) : Prop :=
  response.Carries status "application/problem+json"
    (.obj [("type", .text "about:blank"), ("title", .text (Failure.titleOf status)),
      ("status", .int status), ("detail", (detail.map Json.text).getD .null)])

/-- More headers change nothing, since the type comes first. -/
theorem Carries.withHeaders {response : Response} {status : Nat} {type : String} {body : Json}
    (h : response.Carries status type body) (headers : List (String × String)) :
    (response.withHeaders headers).Carries status type body := by
  refine ⟨h.status, ?_, h.content⟩
  change Entries.get? "content-type" (response.headers ++ headers) = some type
  rw [Entries.get?_append, h.type, Option.some_or]

/-- The document of a failure repeats its status and gives its message, but for an operation that
    has none. -/
theorem explains_problem (failure : Failure) :
    (problem failure).Explains failure.status
      (if failure.standing = .operation ∧ failure.message = "" then none
        else some failure.message) :=
  ⟨rfl, rfl, rfl⟩

/-- A body that can be sent is carried as it is. -/
theorem carries_json {body : Json} (h : body.Sendable) (status : Nat) :
    (json status body).Carries status "application/json" body := by
  rw [json_of_sendable h]
  exact ⟨rfl, rfl, rfl⟩

end Response

namespace Verdict

/-- The body of the response, where it echoes something. -/
def echo? : Verdict → Option Json
  | .invalid issues => some (.obj [("detail", .arr (issues.map Response.issue))])
  | .page found => some found.toJson
  | .stored record => some record.toJson
  | _ => none

/-- The body of the response can be sent. -/
def Sendable (v : Verdict) : Prop :=
  ∀ body, v.echo? = some body → body.Sendable

instance (v : Verdict) : Decidable v.Sendable :=
  inferInstanceAs (Decidable (∀ body ∈ v.echo?, body.Sendable))

/-- The response that a verdict asks for. -/
def Meets (response : Response) : Verdict → Prop
  | .invalid issues => response.Carries 422 "application/json"
      (.obj [("detail", .arr (issues.map Response.issue))])
  | .unreadable => response.Carries 400 "application/json"
      (.obj [("detail", .text "There was an error parsing the body")])
  | .illFormed e => response.Explains 400 (some e.message)
  | .page found => response.Carries 200 "application/json" found.toJson
  | .stored record => response.Carries 201 "application/json" record.toJson
  | .failed failure => ∃ status, failure.Owes status ∧ response.Explains status
      (if failure.standing = .operation ∧ failure.message = "" then none
        else some failure.message)
  | .pending => False

/-- An answer, if there is one, has a status. -/
def HasStatus (answer : Option Response) (status : Nat) : Prop :=
  ∃ response, answer = some response ∧ response.status = status

/-- A verdict is told exactly: each status of a success, and that of a request that is not in order,
    for its own end only, and the response is the one asked for. -/
structure Answered (v : Verdict) (answer : Option Response) : Prop where
  pending : answer = none ↔ v = .pending
  invalid : HasStatus answer 422 ↔ ∃ issues, v = .invalid issues
  page : HasStatus answer 200 ↔ ∃ found, v = .page found
  stored : HasStatus answer 201 ↔ ∃ record, v = .stored record
  meets : ∀ response, answer = some response → Meets response v

/-- The response made of a verdict is the one asked for. -/
theorem meets_of_response {v : Verdict} (h : v.Sendable) {response : Response}
    (hresponse : v.response? = some response) : Meets response v := by
  cases v with
  | invalid issues =>
      cases hresponse
      exact Response.carries_json (h _ rfl) 422
  | unreadable =>
      cases hresponse
      refine Response.carries_json (Json.sendable_obj ?_) 400
      exact List.forall_mem_singleton.mpr
        ⟨LooseText.holdsHalf_ofString "detail", Json.sendable_text _⟩
  | illFormed e =>
      cases hresponse
      exact ⟨rfl, rfl, rfl⟩
  | page found =>
      cases hresponse
      exact Response.carries_json (h _ rfl) 200
  | stored record =>
      cases hresponse
      exact Response.carries_json (h _ rfl) 201
  | failed failure =>
      cases hresponse
      exact ⟨failure.status, failure.owes_status, Response.explains_problem failure⟩
  | pending => cases hresponse

/-- More headers change nothing of what is asked for. -/
theorem meets_withHeaders {v : Verdict} {response : Response} (h : Meets response v)
    (headers : List (String × String)) : Meets (response.withHeaders headers) v := by
  cases v with
  | failed failure =>
      rcases h with ⟨status, howes, hexplains⟩
      exact ⟨status, howes, hexplains.withHeaders headers⟩
  | pending => cases h
  | _ => exact Response.Carries.withHeaders h headers

/-- A status of a success, or that of a request that is not in order, belongs to its own end. -/
theorem status_of_meets {v : Verdict} {response : Response} (h : Meets response v) :
    (response.status = 422 ↔ ∃ issues, v = .invalid issues) ∧
      (response.status = 200 ↔ ∃ found, v = .page found) ∧
      (response.status = 201 ↔ ∃ record, v = .stored record) := by
  cases v with
  | invalid issues => simp [h.status]
  | unreadable => simp [h.status]
  | illFormed e => simp [h.status]
  | page found => simp [h.status]
  | stored record => simp [h.status]
  | failed failure =>
      rcases h with ⟨status, howes, hexplains⟩
      -- A failure is a 400, a 404 or a 500.
      rcases howes.mem with rfl | rfl | rfl <;> simp [hexplains.status]
  | pending => cases h

/-- A verdict whose body can be sent is told exactly by any response made of it, whatever headers
    are put on. -/
theorem answered {v : Verdict} (h : v.Sendable) {answer : Option Response}
    {dress : Response → Response}
    (hdress : ∀ response, Meets response v → Meets (dress response) v)
    (hanswer : answer = v.response?.map dress) : v.Answered answer := by
  -- What is put on the response leaves it the one asked for.
  have hmeets : ∀ response, answer = some response → Meets response v := by
    intro response hresponse
    rw [hanswer] at hresponse
    rcases Option.map_eq_some_iff.mp hresponse with ⟨bare, hbare, rfl⟩
    exact hdress bare (meets_of_response h hbare)
  -- There is no answer exactly if no response is made.
  have hnone : answer = none ↔ v = .pending := by
    rw [hanswer, Option.map_eq_none_iff]
    cases v <;> simp [response?]
  -- Without an answer no status is told, and the publication is pending.
  have hstatus : ∀ status (P : Prop),
      (∀ response, Meets response v → (response.status = status ↔ P)) →
      (v = .pending → ¬ P) → (HasStatus answer status ↔ P) := by
    intro status P hsome hpending
    cases answer with
    | none =>
        refine iff_of_false ?_ (hpending (hnone.mp rfl))
        rintro ⟨response, hresponse, -⟩
        cases hresponse
    | some response =>
        rw [← hsome response (hmeets response rfl)]
        constructor
        · rintro ⟨_, hresponse, hcode⟩
          cases hresponse
          exact hcode
        · intro hcode
          exact ⟨response, rfl, hcode⟩
  refine ⟨hnone, ?_, ?_, ?_, hmeets⟩
  · refine hstatus 422 _ (fun response hresponse => (status_of_meets hresponse).1) ?_
    rintro rfl ⟨issues, hissues⟩
    cases hissues
  · refine hstatus 200 _ (fun response hresponse => (status_of_meets hresponse).2.1) ?_
    rintro rfl ⟨found, hfound⟩
    cases hfound
  · refine hstatus 201 _ (fun response hresponse => (status_of_meets hresponse).2.2) ?_
    rintro rfl ⟨record, hrecord⟩
    cases hrecord

end Verdict

end Http

namespace Service

open Http

/-- The service puts headers on a response, or leaves it as it is. -/
theorem answered_finished {s : Service} {r : Request} {reply : Reply} {v : Verdict}
    (h : v.Sendable) (hreply : reply.response = v.response?) :
    v.Answered (s.finished r reply).response := by
  -- A failure nobody expected keeps its headers as they are, any other response gets more.
  have hdress : ∀ response, Verdict.Meets response v → Verdict.Meets
      (if response.unexpected.isSome then response
        else response.withHeaders (Cors.headers s.origins r)) v := by
    intro response hmeets
    split
    · exact hmeets
    · exact Verdict.meets_withHeaders hmeets _
  refine Verdict.answered h hdress ?_
  rw [finished, hreply]

/-- The issues of a read are about texts of the query string, so only its page is in doubt. -/
theorem sendable_readVerdict {s : Service} {c : Consumer σ} {topic : String} {r : Request}
    {world : σ}
    (hpage : ∀ found, s.readVerdict c topic r world = .page found → found.toJson.Sendable) :
    (s.readVerdict c topic r world).Sendable := by
  unfold readVerdict at hpage ⊢
  cases hcheck : Parameters.check s.settings.defaultLimit s.settings.maxLimit r.query with
  | bad issues =>
      intro body hbody
      cases hbody
      exact Parameters.sendable_issues hcheck
  | good parameters =>
      rw [hcheck] at hpage
      dsimp only at hpage ⊢
      cases hresult : ((s.pageOf c topic parameters).run world).1 with
      | ok found =>
          rw [hresult] at hpage
          intro body hbody
          cases hbody
          exact hpage found rfl
      -- A problem echoes nothing.
      | error failure =>
          intro body hbody
          cases hbody

/-- What a request to read or to write came to is told exactly: for every consumer, every producer
    and every world, and for the later ends of a publication. -/
theorem respond_tells_outcome (s : Service) (c : Consumer σ) (p : Producer σ) (r : Request)
    (world : σ) :
    (∀ topic, Route.of r = .read topic →
      (∀ found, s.readVerdict c topic r world = .page found → found.toJson.Sendable) →
      (s.readVerdict c topic r world).Answered ((s.respond c p r).run world).1.response) ∧
    (∀ topic, Route.of r = .write topic → (s.writeVerdict p topic r world).Sendable →
      (s.writeVerdict p topic r world).Answered ((s.respond c p r).run world).1.response) ∧
    ∀ publication : Publication, publication.verdict.Sendable →
      publication.verdict.Answered (Reply.ofPublication publication).response := by
  refine ⟨?_, ?_, ?_⟩
  · intro topic hroute hpage
    rcases respond_read (p := p) hroute world with ⟨reply, hrun, hreply⟩
    rw [hrun]
    exact answered_finished (sendable_readVerdict hpage) hreply
  · intro topic hroute hsendable
    rcases respond_write (c := c) hroute world with ⟨reply, hrun, hreply⟩
    rw [hrun]
    exact answered_finished hsendable hreply
  · intro publication hsendable
    refine Verdict.answered hsendable (fun _ => id) ?_
    rw [Reply.response_ofPublication, Option.map_id']

/-- A broker with an empty log. -/
def sampleBroker : Broker :=
  { topics := [("t", [(0, Log.empty 0)])], clock := 0, stampsOnAppend := false, unfound := .null
    pollOrder := none, overdeliver := 0, faults := [], acknowledgement := .atOnce
    positions := [] }

/-- What the service with the settings that nobody changed replies. -/
def sampleReply (r : Request) : Reply :=
  (((of {}).respond Broker.consumer Broker.producer r).run sampleBroker).1

/-- A request to read. -/
def sampleRead : Request :=
  ⟨"GET", "test", "/api/v1/topics/t/records", "limit=1", [], []⟩

/-- A request to write with a body. -/
def posted (body : Bytes) : Request :=
  ⟨"POST", "test", "/api/v1/topics/t/records", "", [("content-type", "application/json")], body⟩

/-- A request to write a record with an empty key. -/
def sampleWrite : Request :=
  posted "\x7b\"key\": \"\", \"value\": \"é\"\x7d".toUTF8.toList

/-- An empty page, and a record of the one after. -/
theorem respond_tells_outcome_empty_log :
    Route.of sampleRead = .read "t" ∧
    (∀ found, (of {}).readVerdict Broker.consumer "t" sampleRead sampleBroker = .page found →
      found.toJson.Sendable) ∧
    Verdict.Answered ((of {}).readVerdict Broker.consumer "t" sampleRead sampleBroker)
      (sampleReply sampleRead).response ∧
    Verdict.HasStatus (sampleReply sampleRead).response 200 ∧
    Route.of sampleWrite = .write "t" ∧
    ((of {}).writeVerdict Broker.producer "t" sampleWrite sampleBroker).Sendable ∧
    Verdict.Answered ((of {}).writeVerdict Broker.producer "t" sampleWrite sampleBroker)
      (sampleReply sampleWrite).response ∧
    Verdict.HasStatus (sampleReply sampleWrite).response 201 := by
  have hroute : Route.of sampleRead = .read "t" := by decide +kernel
  have hroute' : Route.of sampleWrite = .write "t" := by decide +kernel
  have hread : ((of {}).readVerdict Broker.consumer "t" sampleRead sampleBroker).Sendable := by
    decide +kernel
  have hwrite : ((of {}).writeVerdict Broker.producer "t" sampleWrite sampleBroker).Sendable := by
    decide +kernel
  have hpage : ∀ found, (of {}).readVerdict Broker.consumer "t" sampleRead sampleBroker =
      .page found → found.toJson.Sendable := by
    intro found hfound
    rw [hfound] at hread
    exact hread found.toJson rfl
  have hstatus : ∀ {r : Request} {status : Nat},
      (sampleReply r).response.map Response.status = some status →
        Verdict.HasStatus (sampleReply r).response status :=
    fun h => Option.map_eq_some_iff.mp h
  have htold := respond_tells_outcome (of {}) Broker.consumer Broker.producer sampleRead
    sampleBroker
  have htold' := respond_tells_outcome (of {}) Broker.consumer Broker.producer sampleWrite
    sampleBroker
  exact ⟨hroute, hpage, htold.1 "t" hroute hpage, hstatus (by decide +kernel), hroute', hwrite,
    htold'.2.1 "t" hroute' hwrite, hstatus (by decide +kernel)⟩

/-- A body without a value, and with half of a surrogate pair. -/
def halfBody : Bytes :=
  "\x7b\"k\":\"\\ud800\"\x7d".toUTF8.toList

/-- The status and the type of the response to a body. -/
def statusAndType (body : Bytes) : Option (Nat × Option String) :=
  (sampleReply (posted body)).response.map fun response =>
    (response.status, Entries.get? "content-type" response.headers)

/-- Neither body holds a request to write. One that is no text is told of with neither a 422 nor a
    problem, and one that lacks its value without a 422. -/
theorem unreadable_body_refused :
    (Payload.writeRequest (posted [0xFF])).toOption = none ∧
    statusAndType [0xFF] = some (400, some "application/json") ∧
    (Payload.writeRequest (posted halfBody)).toOption = none ∧
    statusAndType halfBody = some (400, some "application/problem+json") := by
  decide +kernel

end Service

end RecordGateway
