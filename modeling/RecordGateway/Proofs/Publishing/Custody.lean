import RecordGateway.Proofs.Publishing.Outcome
import RecordGateway.Proofs.Publishing.ReadBack
import RecordGateway.Proofs.Request.Flaw

/-!
# No Producer Is Left Behind

A write can go wrong at four points: before a producer is asked for, while it is made, while it is
handed the record, and after that. The write fails at the first two only, and there is no producer
then that could be left open. From the moment that there is one, everything that goes wrong is the
outcome of a publication, and the producer is closed for it. Only an error of the broker's family
crosses that line: it is raised while the producer is made and becomes an outcome all the same.

What closes a producer is the settlement of its publication. That is kept by every single signal, as
`Publication.closings_after` says: what a signal adds to the closings is what it adds to the
settlement. So it is kept by all the signals together, whenever they come, and in whatever world.

## Main definitions

* `sends`: the records that are handed to producers among events.
* `Outgoing.Says`: a record says what a request asks for.
* `Publication.Follows`: a publication is where signals have brought it.
* `Writer.making`, `Writer.handOver`: what making a producer and handing it a record come to.
* `Writer.LeaksNothing`: what a write leaves behind.

## Theorems

* `Publication.closings_afterAll`: a producer is closed when its publication is settled.
* `Publication.follows_afterAll`: a pending publication follows the signals that come.
* `Writer.says_of_sent`: what is sent says what the request asks for.
* `Writer.publish_leaks_nothing`: no write leaves a producer behind.
-/

namespace RecordGateway

variable {σ : Type}

/-- The record that an event hands to a producer, if it does. -/
def Event.sent? : Event → Option Outgoing
  | .send record => some record
  | _ => none

/-- The records that are handed to producers among events. -/
def sends (es : List Event) : List Outgoing :=
  es.filterMap Event.sent?

/-- Handing over a record is a call on a producer. -/
theorem sends_producerCalls (es : List Event) : sends (producerCalls es) = sends es := by
  rw [sends, sends, producerCalls, List.filterMap_filter]
  refine List.filterMap_congr fun e _ => ?_
  cases e <;> rfl

/-- Whether a failure is an error of the broker's own family. -/
def Failure.isBrokerError : Failure → Bool
  | .fault f => f.kind.isBrokerError
  | _ => false

/-- A record says what a request asks for, in the form in which it is sent. -/
structure Outgoing.Says (record : Outgoing) (topic : String) (request : WriteRequest) : Prop where
  topic : record.topic = topic
  value : request.value.encode = .ok record.value
  key : request.key.toOption.mapM LooseText.encode = .ok record.key
  partition : record.partition = request.partition.toOption
  headers : request.headersOrNone.encode = .ok record.headers
  /-- An instant is that of the text, zero included. -/
  timestamp : ∀ t, record.timestamp = some t ↔
    ∃ text, request.timestamp.toOption = some text ∧ text.toString?.bind Instant.parse? = some t
  /-- No instant is sent if there is no text. -/
  unstamped : record.timestamp = none ↔ request.timestamp.toOption = none

namespace Publication

/-- A publication is where signals have brought it, given how often its producer was closed. -/
structure Follows (p : Publication) (topic : String) (request : WriteRequest)
    (signals : List Signal) (closed : Nat) : Prop where
  /-- A producer is closed once for a publication that is settled, and not before. -/
  closed : closed = if p.outcome.isSome then 1 else 0
  /-- Without a signal nothing is settled. -/
  waiting : signals = [] → p.outcome = none
  /-- The first signal settles the publication as it calls for, if what it says can be shown. -/
  settled : ∀ first rest, signals = first :: rest → first.Showable →
    ∃ o, first.Fixes topic request o ∧ p.outcome = some o

/-- Signals that come later find the publication where the first ones have brought it. -/
theorem afterAll_append (p : Publication) (signals later : List Signal) :
    p.afterAll (signals ++ later) = (p.afterAll signals).afterAll later :=
  List.foldl_append

/-- The calls for all signals are those for the first ones, then those for the others. -/
theorem callsThrough_append (p : Publication) (signals later : List Signal) :
    p.callsThrough (signals ++ later) =
      p.callsThrough signals ++ (p.afterAll signals).callsThrough later := by
  induction signals generalizing p with
  | nil => rfl
  | cons signal rest ih =>
      rw [List.cons_append, callsThrough, callsThrough, ih, List.append_assoc]
      rfl

/-- How often a producer is closed for a publication: once if it is settled. -/
def closings (p : Publication) : Nat :=
  if p.outcome.isSome then 1 else 0

/-- A signal closes the producer if it settles the publication. -/
theorem closings_after (p : Publication) (signal : Signal) :
    p.closings + closes (p.callsAt signal) = (p.after signal).closings := by
  rw [closings, closings, callsAt, after]
  cases p.outcome with
  | some o => rfl
  | none => cases p.ending? signal <;> rfl

/-- Through all signals, a producer is closed when its publication is settled, and not again. -/
theorem closings_afterAll (p : Publication) (signals : List Signal) :
    p.closings + closes (p.callsThrough signals) = (p.afterAll signals).closings := by
  induction signals generalizing p with
  | nil => rfl
  | cons signal rest ih =>
      rw [callsThrough, closes_append, ← Nat.add_assoc, closings_after, ih]
      rfl

/-- A pending publication follows the signals that come. -/
theorem follows_afterAll {p : Publication} (hp : p.outcome = none) (signals : List Signal) :
    (p.afterAll signals).Follows p.topic p.request signals (closes (p.callsThrough signals)) := by
  refine ⟨?_, ?_, ?_⟩
  · -- A pending publication has not been closed for, so all closings are those of the signals.
    have hpending : p.closings = 0 := by
      rw [closings, hp]
      rfl
    rw [← closings, ← closings_afterAll, hpending, Nat.zero_add]
  · rintro rfl
    exact hp
  · rintro first rest rfl hshow
    -- The first signal fixes the outcome, and no later one changes it.
    rcases final_of_showable hp hshow with ⟨o, hfixes, hfinal⟩
    refine ⟨o, hfixes, ?_⟩
    rcases receiveAll_yields (p.after first) (fun _ s => (.ok (), s)) rest () with ⟨s', es, hes, -⟩
    have houtcome := hfinal Unit (fun _ s => (.ok (), s)) rest ()
    rw [hes.run_eq] at houtcome
    exact houtcome

/-- It goes on to follow them while later signals are handled, in whatever world. -/
theorem follows_receiveAll {p : Publication} (hp : p.outcome = none) (signals : List Signal)
    (close : Number → Answer σ Unit) (later : List Signal) (s : σ) :
    ∃ after s' es, ((p.afterAll signals).receiveAll close later).run s = (after, ⟨s', es⟩) ∧
      after.Follows p.topic p.request (signals ++ later)
        (closes (p.callsThrough signals) + closes es) := by
  rcases receiveAll_yields (p.afterAll signals) close later s with ⟨s', es, hes, hcalls⟩
  refine ⟨_, s', es, hes.run_eq, ?_⟩
  rw [← afterAll_append, ← closes_producerCalls es, hcalls, ← closes_append, ← callsThrough_append]
  exact follows_afterAll hp _

end Publication

namespace Writer

/-- What is made of a request before a producer is asked for: its instant, and its headers as they
    are sent. -/
def prepared (request : WriteRequest) :
    Except Failure (Option Instant × List (LooseText × Bytes)) := do
  let timestamp ← Moment.parse request.timestamp.toOption
  let headers ← request.headersOrNone.encode.mapError fun e => .fault (.unencodable e)
  return (timestamp, headers)

/-- What making a producer comes to, and the world after it. Settings that do for no client fail
    before the client is asked. -/
def making (w : Writer) (p : Producer σ) (s : σ) : Except Failure Unit × σ :=
  match Connection.producer w.settings with
  | .error e => (.error (.badVersion e), s)
  | .ok _ => ((p.create s).1.mapError .fault, (p.create s).2)

/-- What handing a record to a producer comes to. A text without a UTF-8 form raises there. -/
def handOver (p : Producer σ) (record : Except LooseText.Unencodable Outgoing) (s : σ) :
    Except Fault (Option Signal) :=
  match record with
  | .error e => .error (.unencodable e)
  | .ok r => (p.send r s).1

/-- What is made of a request fails exactly for its flaws. -/
theorem prepared_refuses (request : WriteRequest) : Refuses (prepared request) request.Flaw :=
  (Moment.parse_refuses _).bind fun _ _ =>
    (request.headersOrNone.encode_refuses.mapError _).bind_ok

/-- The checks of a write are those of its request, and then those of the settings. -/
theorem checks_eq (w : Writer) (request : WriteRequest) :
    w.checks request = (do
      let checked ← prepared request
      let _ ← (Connection.producer w.settings).mapError .badVersion
      return checked) := by
  rw [checks, prepared]
  cases Moment.parse request.timestamp.toOption with
  | error e => rfl
  | ok timestamp => cases request.headersOrNone.encode <;> rfl

/-- What raises refuses the record, and what does not may have a signal already. -/
theorem promptSignal_eq (p : Producer σ) (record : Except LooseText.Unencodable Outgoing) (s : σ) :
    promptSignal p record s = match handOver p record s with
      | .error f => some (.refused f)
      | .ok signal? => signal? := by
  cases record <;> rfl

/-- What a write leaves behind. Its result is a failure or a publication, and its producer is closed
    or in the hands of the publication. -/
structure LeaksNothing (w : Writer) (p : Producer σ) (topic : String) (request : WriteRequest)
    (s : σ) (result : Except Failure Publication) (events : List Event) : Prop where
  /-- A write fails for what is wrong with the request, or else with the very failure to make a
      producer, unless that is an error of the broker's family. -/
  fails : ∀ failure, result = .error failure ↔
    before request.Flaw (fun e => (w.making p s).1 = .error e ∧ e.isBrokerError = false) failure
  /-- For what is wrong with the request it fails before a producer is asked for. -/
  unasked : ∀ failure, request.Flaw failure → events = []
  /-- If a write fails, there is no producer. -/
  unmade : ∀ failure, result = .error failure →
    (.producerNew ∈ events → ∃ f, (p.create s).1 = .error f) ∧ sends events = [] ∧
      closes events = 0
  /-- If the broker's family stands in the way of a producer, the publication has failed. -/
  unreachable : (∀ failure, ¬ request.Flaw failure) → ∀ f, (w.making p s).1 = .error (.fault f) →
    f.kind.isBrokerError = true → ∃ publication, result = .ok publication ∧
      publication.outcome = some (.failed (.sendFailed topic f)) ∧ sends events = [] ∧
      closes events = 0
  /-- If a producer is made, it is handed the record once. If that raises, the publication has
      failed and the producer was closed once; if not, the publication follows the signal that may
      be there already and those that come later, in whatever world. -/
  made : (∀ failure, ¬ request.Flaw failure) → ∀ s₀, w.making p s = (.ok (), s₀) →
    ∃ timestamp publication, Moment.parse request.timestamp.toOption = .ok timestamp ∧
      result = .ok publication ∧
      sends events = (sent topic request timestamp).toOption.toList ∧
      (∀ record ∈ sends events, record.Says topic request) ∧
      match handOver p (sent topic request timestamp) s₀ with
      | .error cause => publication.outcome = some (.failed (.sendFailed topic cause)) ∧
          closes events = 1
      | .ok signal? => ∀ (τ : Type) (close : Number → Answer τ Unit) later s₂,
          ∃ after s₃ more, (publication.receiveAll close later).run s₂ = (after, ⟨s₃, more⟩) ∧
            after.Follows topic request (signal?.toList ++ later) (closes events + closes more)

section

variable {w : Writer} {p : Producer σ} {request : WriteRequest} {s : σ}

/-- A request with something wrong never gets as far as a producer. -/
theorem leaksNothing_flawed {e : Failure} (hprepared : prepared request = .error e)
    (topic : String) : ∃ result s' events,
      (w.publish p topic request).run s = (result, ⟨s', events⟩) ∧
      w.LeaksNothing p topic request s result events := by
  have hrefuses := prepared_refuses request
  have hflaw : request.Flaw e := (hrefuses e).mp hprepared
  have hchecks : w.checks request = .error e := by
    rw [checks_eq, hprepared]
    rfl
  -- No event at all, so nothing can be left; what would need a request without flaws does not
  -- apply.
  refine ⟨_, s, [], (publish_unchecked hchecks p topic s).run_eq, fun failure => ?_,
    fun _ _ => rfl, fun _ _ => ⟨nofun, rfl, rfl⟩, fun hnone => absurd hflaw (hnone e),
    fun hnone => absurd hflaw (hnone e)⟩
  constructor
  · rintro ⟨⟩
    exact Or.inl hflaw
  · rintro (h | ⟨hnone, -⟩)
    · have hsame := hprepared.symm.trans ((hrefuses failure).mpr h)
      cases hsame
      rfl
    · exact absurd hflaw (hnone e)

variable {timestamp : Option Instant} {headers : List (LooseText × Bytes)}

/-- If the request is in order, the checks fail exactly if the settings do for no client. -/
theorem checks_of_prepared (hprepared : prepared request = .ok (timestamp, headers)) :
    w.checks request = ((Connection.producer w.settings).mapError .badVersion).map
      fun _ => (timestamp, headers) := by
  rw [checks_eq, hprepared]
  cases Connection.producer w.settings <;> rfl

/-- If the request is in order, what is sent is made of what the checks have read. -/
theorem sent_of_prepared (hprepared : prepared request = .ok (timestamp, headers))
    (topic : String) :
    Moment.parse request.timestamp.toOption = .ok timestamp ∧
      sent topic request timestamp = outgoing topic request timestamp headers := by
  rw [prepared] at hprepared
  rw [sent]
  cases hparse : Moment.parse request.timestamp.toOption with
  | error e =>
      rw [hparse] at hprepared
      cases hprepared
  | ok t =>
      cases hencode : request.headersOrNone.encode with
      | error e =>
          rw [hparse, hencode] at hprepared
          cases hprepared
      | ok hs =>
          rw [hparse, hencode] at hprepared
          cases hprepared
          exact ⟨rfl, rfl⟩

/-- Settings that do for no client stop a write before the client is asked. -/
theorem leaksNothing_unconfigured {e : VersionError}
    (hprepared : prepared request = .ok (timestamp, headers))
    (hsettings : Connection.producer w.settings = .error e) (topic : String) :
    ∃ result s' events, (w.publish p topic request).run s = (result, ⟨s', events⟩) ∧
      w.LeaksNothing p topic request s result events := by
  have hnone := (prepared_refuses request).none_of_ok hprepared
  -- The settings are looked at before the client is asked, so the world is as it was.
  have hmaking : w.making p s = (.error (.badVersion e), s) := by rw [making, hsettings]
  have hchecks : w.checks request = .error (.badVersion e) := by
    rw [checks_of_prepared hprepared, hsettings]
    rfl
  refine ⟨_, s, [], (publish_unchecked hchecks p topic s).run_eq, fun failure => ?_,
    fun failure h => absurd h (hnone failure), fun _ _ => ⟨nofun, rfl, rfl⟩, fun _ f hf => ?_,
    fun _ s₀ hmade => ?_⟩
  · rw [before_of_first_none hnone, hmaking]
    constructor
    · rintro ⟨⟩
      exact ⟨rfl, rfl⟩
    · rintro ⟨⟨⟩, -⟩
      rfl
  · rw [hmaking] at hf
    cases hf
  · rw [hmaking] at hmade
    cases hmade

/-- A producer that cannot be made is not called. -/
theorem leaksNothing_uncreated {f : Fault} {s₀ : σ}
    (hchecks : w.checks request = .ok (timestamp, headers))
    (hnone : ∀ failure, ¬ request.Flaw failure)
    (hmaking : w.making p s = (.error (.fault f), s₀)) (hcreate : p.create s = (.error f, s₀))
    (topic : String) :
    ∃ result s' events, (w.publish p topic request).run s = (result, ⟨s', events⟩) ∧
      w.LeaksNothing p topic request s result events := by
  -- The attempt is the only call, and it neither sends nor closes.
  have hcalls := producerCalls_uncreated topic f
  have hsends : sends (uncreatedEvents topic f) = [] := by
    rw [← sends_producerCalls, hcalls]
    rfl
  have hcloses : closes (uncreatedEvents topic f) = 0 := by
    rw [← closes_producerCalls, hcalls]
    rfl
  refine ⟨_, s₀, _, (publish_uncreated hchecks hcreate topic).run_eq, fun failure => ?_,
    fun failure h => absurd h (hnone failure), fun _ _ => ⟨fun _ => ⟨f, ?_⟩, hsends, hcloses⟩,
    fun _ f' hf hbroker => ?_, fun _ s₁ hmade => ?_⟩
  · rw [before_of_first_none hnone, hmaking]
    -- An error of the family becomes an outcome, so the write does not fail; any other is its
    -- failure.
    by_cases hbroker : f.kind.isBrokerError = true
    · rw [if_pos hbroker]
      refine iff_of_false nofun ?_
      rintro ⟨⟨⟩, hother⟩
      rw [Failure.isBrokerError, hbroker] at hother
      cases hother
    · rw [if_neg hbroker]
      constructor
      · rintro ⟨⟩
        exact ⟨rfl, Bool.eq_false_iff.mpr hbroker⟩
      · rintro ⟨⟨⟩, -⟩
        rfl
  · rw [hcreate]
  · rw [hmaking] at hf
    cases hf
    rw [if_pos hbroker]
    exact ⟨_, rfl, rfl, hsends, hcloses⟩
  · rw [hmaking] at hmade
    cases hmade

/-- Whatever is sent says what the request asks for. -/
theorem says_of_sent {topic : String} {record : Outgoing}
    (hparse : Moment.parse request.timestamp.toOption = .ok timestamp)
    (hsent : sent topic request timestamp = .ok record) : record.Says topic request := by
  rcases sent_eq_ok_iff.mp hsent with ⟨value, key, headers, hvalue, hkey, hheaders, rfl⟩
  -- No text, no instant; a text is read as the one instant that it names.
  cases htext : request.timestamp.toOption with
  | none =>
      rw [htext] at hparse
      cases hparse
      refine ⟨rfl, hvalue, hkey, rfl, hheaders,
        fun t => iff_of_false (Option.some_ne_none t).symm ?_, iff_of_true rfl htext⟩
      rintro ⟨text, hsome, -⟩
      rw [htext] at hsome
      cases hsome
  | some text =>
      rw [htext, Moment.parse] at hparse
      cases hinstant : text.toString?.bind Instant.parse? with
      | none =>
          rw [hinstant] at hparse
          cases hparse
      | some t =>
          rw [hinstant] at hparse
          cases hparse
          refine ⟨rfl, hvalue, hkey, rfl, hheaders, fun t' => ?_,
            iff_of_false (Option.some_ne_none t) ?_⟩
          · rw [htext, ← hinstant]
            simp only [Option.some.injEq, exists_eq_left']
          · rw [htext]
            exact Option.some_ne_none text

/-- A record is handed over once if it can be encoded, and what its first signal calls for hands
    over none. -/
theorem sends_sendCalls (w : Writer) (p : Producer σ) (topic : String) (request : WriteRequest)
    (record : Except LooseText.Unencodable Outgoing) (s : σ) :
    sends (w.sendCalls p topic request record s) = record.toOption.toList := by
  -- A signal closes the producer or does nothing.
  have hcloses : sends ((promptSignal p record s).elim [] (w.fresh topic request false).callsAt) =
      [] := by
    cases promptSignal p record s with
    | none => rfl
    | some signal =>
        rw [Option.elim_some, Publication.callsAt]
        split_ifs <;> rfl
  rw [sendCalls, sends, List.filterMap_append, ← sends, ← sends, hcloses, List.append_nil]
  cases record <;> rfl

/-- A producer that was made is closed for a send that raises, and otherwise it is left to
    signals. -/
theorem leaksNothing_created {s₀ : σ}
    (hprepared : prepared request = .ok (timestamp, headers))
    (hchecks : w.checks request = .ok (timestamp, headers))
    (hmaking : w.making p s = (.ok (), s₀)) (hcreate : p.create s = (.ok (), s₀))
    (topic : String) :
    ∃ result s' events, (w.publish p topic request).run s = (result, ⟨s', events⟩) ∧
      w.LeaksNothing p topic request s result events := by
  have hnone := (prepared_refuses request).none_of_ok hprepared
  rcases sent_of_prepared hprepared topic with ⟨hparse, hsent⟩
  rcases publish_created hchecks hcreate topic with ⟨s', es, hes, hcalls⟩
  -- The calls are those of the send, and only one of them hands over a record.
  have hsends : sends es = (sent topic request timestamp).toOption.toList := by
    rw [← sends_producerCalls, hcalls, hsent]
    exact sends_sendCalls w p topic request _ s₀
  -- And they close as often as the first signal says, whatever has been taken on.
  have hcloses : ∀ handedOver, closes es = closes ((promptSignal p
      (sent topic request timestamp) s₀).elim [] (w.fresh topic request handedOver).callsAt) := by
    intro handedOver
    rw [← closes_producerCalls, hcalls, hsent, ← closes_sendCalls]
    rfl
  rw [← hsent] at hes
  refine ⟨_, s', es, hes.run_eq, fun failure => ?_, fun failure h => absurd h (hnone failure),
    nofun, fun _ f hf => ?_, fun _ s₁ hmade => ?_⟩
  · rw [before_of_first_none hnone, hmaking]
    refine iff_of_false nofun ?_
    rintro ⟨⟨⟩, -⟩
  · rw [hmaking] at hf
    cases hf
  · rw [hmaking] at hmade
    cases hmade
    refine ⟨timestamp, _, hparse, rfl, hsends, fun record hrecord => ?_, ?_⟩
    · rw [hsends, Option.mem_toList] at hrecord
      cases hout : sent topic request timestamp with
      | error e =>
          rw [hout] at hrecord
          cases hrecord
      | ok out =>
          rw [hout] at hrecord
          cases hrecord
          exact says_of_sent hparse hout
    · -- A send that raises is its own first signal; one that does not may have brought one.
      have hprompt := promptSignal_eq p (sent topic request timestamp) s₀
      cases hhanded : handOver p (sent topic request timestamp) s₀ with
      | error cause =>
          rw [hhanded] at hprompt
          rw [started, hcloses false, hprompt]
          exact ⟨rfl, rfl⟩
      | ok signal? =>
          -- The signal that is there already and those to come are met by one fresh publication.
          rw [hhanded] at hprompt
          intro τ close later s₂
          generalize htaken : takesOn p (sent topic request timestamp) s₀ = taken
          have hstarted : w.started p topic request (sent topic request timestamp) s₀ =
              (w.fresh topic request taken).afterAll signal?.toList := by
            rw [started, hprompt, htaken]
            cases signal? <;> rfl
          have hclosed : closes es =
              closes ((w.fresh topic request taken).callsThrough signal?.toList) := by
            rw [hcloses taken, hprompt]
            cases signal? with
            | none => rfl
            | some signal => exact congrArg closes (List.append_nil _).symm
          rw [hstarted, hclosed]
          exact Publication.follows_receiveAll rfl signal?.toList close later s₂

end

/-- No write leaves a producer behind. It fails for what is wrong with the request, before a
    producer is asked for, or because none can be made. An error of the broker's family that stands
    in the way of a producer becomes the outcome of a publication. A producer that is made is handed
    the record once, and it is closed as soon as the publication is settled: at once if that raises,
    and else by the signals that come. -/
theorem publish_leaks_nothing (w : Writer) (p : Producer σ) (topic : String)
    (request : WriteRequest) (s : σ) :
    w.LeaksNothing p topic request s ((w.publish p topic request).run s).1
      ((w.publish p topic request).run s).2.events := by
  have hrun : ∃ result s' events, (w.publish p topic request).run s = (result, ⟨s', events⟩) ∧
      w.LeaksNothing p topic request s result events := by
    cases hprepared : prepared request with
    | error e => exact leaksNothing_flawed hprepared topic
    | ok checked =>
        rcases checked with ⟨timestamp, headers⟩
        cases hsettings : Connection.producer w.settings with
        | error e => exact leaksNothing_unconfigured hprepared hsettings topic
        | ok options =>
            have hchecks : w.checks request = .ok (timestamp, headers) := by
              rw [checks_of_prepared hprepared, hsettings]
              rfl
            rcases hcreate : p.create s with ⟨answer, s₀⟩
            have hmaking : w.making p s = (answer.mapError .fault, s₀) := by
              rw [making, hsettings, hcreate]
            cases answer with
            | error f =>
                have hnone := (prepared_refuses request).none_of_ok hprepared
                exact leaksNothing_uncreated hchecks hnone hmaking hcreate topic
            | ok u => exact leaksNothing_created hprepared hchecks hmaking hcreate topic
  rcases hrun with ⟨result, s', events, hrun, hleaks⟩
  rw [hrun]
  exact hleaks

/-- A send that raises, through a producer that raises when it is closed too. -/
theorem publish_leaks_nothing_raising_send :
    ∃ (p : Producer Unit) (publication : Publication),
      p.send = (fun _ s => (.error ⟨.runtime, none⟩, s)) ∧
      p.close = (fun _ s => (.error ⟨.timeout, none⟩, s)) ∧
      ((impatient.publish p "t" sampleRequest).run ()).1 = .ok publication ∧
      publication.outcome = some (.failed (.sendFailed "t" ⟨.runtime, none⟩)) ∧
      closes ((impatient.publish p "t" sampleRequest).run ()).2.events = 1 := by
  let p : Producer Unit := { told none with send := fun _ s => (.error ⟨.runtime, none⟩, s) }
  have hnone : ∀ failure, ¬ sampleRequest.Flaw failure :=
    (prepared_refuses sampleRequest).none_of_ok rfl
  rcases (publish_leaks_nothing impatient p "t" sampleRequest ()).made hnone () rfl with
    ⟨timestamp, publication, hparse, hresult, -, -, hraised⟩
  cases hparse
  exact ⟨p, publication, rfl, rfl, hresult, hraised⟩

/-- A header that is half of a surrogate pair: the timestamp is in order and a producer could be
    made, and yet the write fails. -/
theorem half_header_raises :
    (∀ failure, ¬ Moment.Flaw sampleRequest.timestamp.toOption failure) ∧
    impatient.making (told none) () = (.ok (), ()) ∧
    ((impatient.publish (told none) "t"
      { sampleRequest with headers := some [(.ofString "a", ⟨[.half ⟨0⟩]⟩)] }).run ()).1 =
        .error (.fault (.unencodable ⟨0, ⟨0⟩, 1⟩)) := by
  refine ⟨?_, rfl, rfl⟩
  rintro failure ⟨⟩

end Writer

end RecordGateway
