import Mathlib.Tactic.SplitIfs
import RecordGateway.Proofs.Client.Trace
import RecordGateway.Proofs.Time.Range
import RecordGateway.Publishing

/-!
# The Course of a Publication

What the operations of a writer come to, for every producer in every world.

A publication has two sides. Its outcome is a value, and what a signal makes of it
does not depend on the world at all: `Publication.after` is a plain function, in
which the first ending stays. Its steps are what can be seen of it, and they can be
read off the publication and the signal as well: by `Publication.stepsAt` a signal
that ends the publication closes the producer, and then the publication is settled;
any other signal does nothing. `receive_steps` says that handling a signal is exactly
these two functions; only the world afterwards depends on whether closing raises.

Publishing is cut in the same way. The checks come first and call nothing. Then a
producer is made, and the send either raises, signals at once or stays silent.
The first two are one case, since a send that raises refuses the record.

## Main definitions

* `producerCalls`: the calls on producers among events.
* `steps`: those calls and the settlements of publications.
* `settlements`: the outcomes with which publications were settled.
* `closes`: how often a producer was closed.
* `Publication.ending?`: how a signal ends a pending publication.
* `Publication.after`: the publication after a signal.
* `Publication.callsAt`, `Publication.stepsAt`: the calls and the steps while a signal
  is handled.
* `Writer.checks`: what is checked before a producer is made.
* `Writer.promptSignal`: the signal that comes before a send returns.
* `Writer.started`: the publication that a send comes to.

## Theorems

* `Publication.receive_steps`, `Publication.receive_yields`: handling a signal, by its
  steps and by its calls.
* `Publication.storedRecord_isOk_iff`: which delivered records can be shown.
* `Writer.publish_eq`: publishing is checking and then sending.
* `Writer.publish_unchecked`: a request that fails a check.
* `Writer.publish_steps`, `Writer.publish_created`: publishing through a producer that
  could be made, by its steps and by its calls.
* `Writer.publish_uncreated`: publishing when no producer could be made.
-/

namespace RecordGateway

variable {σ : Type}

namespace Event

/-- Whether an event is a call on a producer. -/
def isProducerCall : Event → Bool
  | .producerNew | .send _ | .producerClose _ => true
  | _ => false

/-- Whether an event closes a producer. -/
def isProducerClose : Event → Bool
  | .producerClose _ => true
  | _ => false

/-- The outcome that an event settles a publication with, if it settles one. -/
def settlement? : Event → Option Outcome
  | .settled outcome => some outcome
  | _ => none

/-- Whether an event is a step of a publication: a call on a producer, or the
    settlement. -/
def isStep (e : Event) : Bool :=
  e.isProducerCall || e.settlement?.isSome

end Event

/-- The calls on producers among events. -/
def producerCalls (es : List Event) : List Event :=
  es.filter Event.isProducerCall

/-- The steps of publications among events. -/
def steps (es : List Event) : List Event :=
  es.filter Event.isStep

/-- The outcomes with which publications were settled in events. -/
def settlements (es : List Event) : List Outcome :=
  es.filterMap Event.settlement?

/-- How often a producer was closed. -/
def closes (es : List Event) : Nat :=
  es.countP Event.isProducerClose

/-- Closings in two runs of events add up. -/
theorem closes_append (es₁ es₂ : List Event) : closes (es₁ ++ es₂) = closes es₁ + closes es₂ :=
  List.countP_append

/-- Calls on a producer are counted in order. -/
theorem producerCalls_append (es₁ es₂ : List Event) :
    producerCalls (es₁ ++ es₂) = producerCalls es₁ ++ producerCalls es₂ :=
  List.filter_append es₁ es₂

/-- So are the steps of publications. -/
theorem steps_append (es₁ es₂ : List Event) : steps (es₁ ++ es₂) = steps es₁ ++ steps es₂ :=
  List.filter_append es₁ es₂

/-- And so are settlements. -/
theorem settlements_append (es₁ es₂ : List Event) :
    settlements (es₁ ++ es₂) = settlements es₁ ++ settlements es₂ :=
  List.filterMap_append

/-- Every call on a producer is a step. -/
theorem producerCalls_steps (es : List Event) : producerCalls (steps es) = producerCalls es := by
  rw [producerCalls, steps, List.filter_filter]
  refine List.filter_congr fun e _ => ?_
  rw [Event.isStep]
  cases e.isProducerCall <;> rfl

/-- Every settlement is a step. -/
theorem settlements_steps (es : List Event) : settlements (steps es) = settlements es := by
  rw [settlements, settlements, steps, List.filterMap_filter]
  congr 1
  funext e
  cases e <;> rfl

/-- Closing is a call on a producer, so closings are counted among those calls. -/
theorem closes_producerCalls (es : List Event) : closes (producerCalls es) = closes es := by
  simp only [closes, producerCalls, List.countP_filter]
  refine List.countP_congr (fun e _ => ?_)
  cases e <;> simp [Event.isProducerClose, Event.isProducerCall]

/-- A closing is a step. -/
theorem closes_steps (es : List Event) : closes (steps es) = closes es := by
  rw [← closes_producerCalls, producerCalls_steps, closes_producerCalls]

namespace Publication

/-- How a signal ends a pending publication, if it does: a delivered record that
    cannot be shown ends nothing. -/
def ending? (p : Publication) : Signal → Option Outcome
  | .delivered metadata => match p.storedRecord metadata with
    | .ok record => some (.stored record)
    | .error _ => none
  | .refused cause => some (.failed (.sendFailed p.topic cause))

/-- The publication after a signal: the first ending stays. -/
def after (p : Publication) (signal : Signal) : Publication :=
  { p with outcome := p.outcome.or (p.ending? signal) }

/-- The calls on the producer while a signal is handled: one that closes it, if
    the signal ends the publication. -/
def callsAt (p : Publication) (signal : Signal) : List Event :=
  if p.outcome.isNone ∧ (p.ending? signal).isSome then [.producerClose p.closeTimeout] else []

/-- The steps by which a pending publication is settled, if it is: its producer is
    closed first. -/
def ended (p : Publication) (outcome? : Option Outcome) : List Event :=
  outcome?.elim [] fun outcome => [.producerClose p.closeTimeout, .settled outcome]

/-- The steps while a signal is handled. A publication that is settled makes none. -/
def stepsAt (p : Publication) (signal : Signal) : List Event :=
  if p.outcome.isNone then p.ended (p.ending? signal) else []

/-- Of the steps at a signal the producer sees the close alone. -/
theorem producerCalls_stepsAt (p : Publication) (signal : Signal) :
    producerCalls (p.stepsAt signal) = p.callsAt signal := by
  simp only [stepsAt, callsAt, ended]
  cases p.outcome with
  | some o => rfl
  | none => cases p.ending? signal <;> rfl

/-- Fixing the outcome is the one event of it, and leaves the world as it is. -/
theorem resolve_yields (p : Publication) (o : Outcome) (s : σ) :
    Dialogue.Yields (p.resolve o) s { p with outcome := some o } s [.settled o] :=
  (Dialogue.Yields.record (.settled o) s).bind (Dialogue.Yields.pure _ s)

/-- A publication that is settled is not settled again. -/
theorem settle_settled {p : Publication} {o : Outcome} (hp : p.outcome = some o) (o' : Outcome)
    (close : Number → Answer σ Unit) (s : σ) :
    Dialogue.Yields (p.settle o' close) s p s [] := by
  simp only [settle, hp]
  exact Dialogue.Yields.pure p s

/-- Settling a pending publication closes its producer and then fixes the outcome,
    whatever closing answers. -/
theorem settle_pending {p : Publication} (hp : p.outcome = none) (o : Outcome)
    (close : Number → Answer σ Unit) (s : σ) :
    ∃ s' es, Dialogue.Yields (p.settle o close) s { p with outcome := some o } s' es ∧
      steps es = p.ended (some o) := by
  simp only [settle, hp]
  -- Closing comes first, and a fault of it is noted but does not stop the settlement.
  rcases hclose : close p.closeTimeout s with ⟨answer, s'⟩
  have hstart := Dialogue.Yields.record (.producerClose p.closeTimeout) s
  have hattempt := Dialogue.Yields.attempt hclose
  have hresolve := resolve_yields p o s'
  cases answer with
  | ok u =>
      exact ⟨s', _, hstart.bind (hattempt.bind hresolve), rfl⟩
  | error f =>
      exact ⟨s', _, hstart.bind (hattempt.bind
        ((Dialogue.Yields.note .closeFailed s').bind hresolve)), rfl⟩

/-- A signal for a settled publication leaves it as it is, and no step is made. -/
theorem receive_settled {p : Publication} {o : Outcome} (hp : p.outcome = some o)
    (signal : Signal) (close : Number → Answer σ Unit) (s : σ) :
    ∃ es, Dialogue.Yields (p.receive signal close) s p s es ∧ steps es = [] := by
  cases signal with
  | delivered metadata =>
      simp only [receive]
      -- The callback works on the record before it looks whether there is an outcome, so
      -- it may fail even now; that is an event, but no step.
      cases p.storedRecord metadata with
      | ok record => exact ⟨_, settle_settled hp _ close s, rfl⟩
      | error e =>
          exact ⟨_, (Dialogue.Yields.record _ s).bind (Dialogue.Yields.pure p s), rfl⟩
  | refused cause =>
      exact ⟨_, (Dialogue.Yields.note _ s).bind (settle_settled hp _ close s), rfl⟩

/-- Nor does a signal change it. -/
theorem after_settled {p : Publication} {o : Outcome} (hp : p.outcome = some o)
    (signal : Signal) : p.after signal = p := by
  simp only [after, hp, Option.some_or]
  cases p
  cases hp
  rfl

/-- And what ends nothing changes nothing. -/
theorem after_unended {p : Publication} {signal : Signal} (hp : p.outcome = none)
    (hend : p.ending? signal = none) : p.after signal = p := by
  simp only [after, hp, hend, Option.none_or]
  cases p
  cases hp
  rfl

/-- What handling a signal comes to: the publication after it, and the steps on the
    way. Only the world depends on whether closing raises. -/
theorem receive_steps (p : Publication) (signal : Signal) (close : Number → Answer σ Unit)
    (s : σ) :
    ∃ s' es, Dialogue.Yields (p.receive signal close) s (p.after signal) s' es ∧
      steps es = p.stepsAt signal := by
  cases hp : p.outcome with
  | some o =>
      rcases receive_settled hp signal close s with ⟨es, hes, hsteps⟩
      have hnone : p.stepsAt signal = [] := by
        simp only [stepsAt, hp, Option.isNone_some, Bool.false_eq_true, if_false]
      rw [after_settled hp, hnone]
      exact ⟨s, es, hes, hsteps⟩
  | none =>
      have hat : p.stepsAt signal = p.ended (p.ending? signal) := by
        simp only [stepsAt, hp, Option.isNone_none, if_true]
      rw [hat]
      cases signal with
      | delivered metadata =>
          cases hrecord : p.storedRecord metadata with
          | ok record =>
              rcases settle_pending hp (.stored record) close s with ⟨s', es, hes, hsteps⟩
              refine ⟨s', es, ?_, ?_⟩
              · simpa only [receive, after, ending?, hrecord, hp, Option.none_or] using hes
              · simpa only [ending?, hrecord] using hsteps
          | error e =>
              -- The callback fails before it settles anything.
              have hend : p.ending? (.delivered metadata) = none := by
                simp only [ending?, hrecord]
              refine ⟨s, [.callbackFailed e], ?_, ?_⟩
              · rw [after_unended hp hend]
                simp only [receive, hrecord]
                exact (Dialogue.Yields.record _ s).bind (Dialogue.Yields.pure p s)
              · rw [hend]
                rfl
      | refused cause =>
          rcases settle_pending hp (.failed (.sendFailed p.topic cause)) close s with
            ⟨s', es, hes, hsteps⟩
          refine ⟨s', [.notice (.sendFailed p.topic cause)] ++ es,
            (Dialogue.Yields.note _ s).bind ?_, ?_⟩
          · simpa only [after, ending?, hp, Option.none_or] using hes
          · rw [steps_append, hsteps]
            rfl

/-- What handling a signal comes to, seen by the producer: the publication after it, and
    the calls that it asks for. -/
theorem receive_yields (p : Publication) (signal : Signal) (close : Number → Answer σ Unit)
    (s : σ) :
    ∃ s' es, Dialogue.Yields (p.receive signal close) s (p.after signal) s' es ∧
      producerCalls es = p.callsAt signal := by
  rcases receive_steps p signal close s with ⟨s', es, hes, hsteps⟩
  refine ⟨s', es, hes, ?_⟩
  rw [← producerCalls_steps, hsteps, producerCalls_stepsAt]

/-- A delivered record can be shown unless its timestamp is after the calendar. -/
theorem storedRecord_isOk_iff (p : Publication) (m : Metadata) :
    (∃ record, p.storedRecord m = .ok record) ↔ ∀ t, m.timestamp = some t → t ≤ Instant.last := by
  rw [← Reported.timestamp_isOk_iff, storedRecord]
  cases Reported.timestamp m.timestamp with
  | ok slot => exact ⟨fun _ => ⟨slot, rfl⟩, fun _ => ⟨_, rfl⟩⟩
  | error e =>
      constructor
      · rintro ⟨record, h⟩
        cases h
      · rintro ⟨slot, h⟩
        cases h

end Publication

namespace Writer

/-- A publication that a writer starts, before any signal. -/
def fresh (w : Writer) (topic : String) (request : WriteRequest) (handedOver : Bool) :
    Publication :=
  { topic := topic, request := request, closeTimeout := w.closeTimeout, handedOver := handedOver
    outcome := none }

/-- What a writer checks before it asks for a producer: the instant and the
    headers of the request, and the broker version in its settings. -/
def checks (w : Writer) (request : WriteRequest) :
    Except Failure (Option Instant × List (LooseText × Bytes)) := do
  let timestamp ← Moment.parse request.timestamp.toOption
  let headers ← request.headersOrNone.encode.mapError fun e => .fault (.unencodable e)
  let _ ← (Connection.producer w.settings).mapError .badVersion
  return (timestamp, headers)

/-- The signal that a send comes to before it returns, if it does. A producer
    that raises refuses the record, and so does a text without an encoded form. -/
def promptSignal (p : Producer σ) (record : Except LooseText.Unencodable Outgoing) (s : σ) :
    Option Signal :=
  match record with
  | .error e => some (.refused (.unencodable e))
  | .ok r => match (p.send r s).1 with
    | .error f => some (.refused f)
    | .ok signal? => signal?

/-- Whether a producer takes on a record, so that signals can come later. -/
def takesOn (p : Producer σ) (record : Except LooseText.Unencodable Outgoing) (s : σ) : Bool :=
  match record with
  | .error _ => false
  | .ok r => (p.send r s).1.isOk

/-- The publication that a send comes to: that of the prompt signal, or pending. -/
def started (w : Writer) (p : Producer σ) (topic : String) (request : WriteRequest)
    (record : Except LooseText.Unencodable Outgoing) (s : σ) : Publication :=
  (promptSignal p record s).elim (w.fresh topic request (takesOn p record s))
    (w.fresh topic request (takesOn p record s)).after

/-- The calls of a send: handing over the record, if it has an encoded form, and
    closing the producer, if a prompt signal settles the publication. -/
def sendCalls (w : Writer) (p : Producer σ) (topic : String) (request : WriteRequest)
    (record : Except LooseText.Unencodable Outgoing) (s : σ) : List Event :=
  (record.toOption.map Event.send).toList ++
    (promptSignal p record s).elim [] (w.fresh topic request false).callsAt

/-- The steps of a send: handing over the record, if it has an encoded form, and those
    of a prompt signal. -/
def sendSteps (w : Writer) (p : Producer σ) (topic : String) (request : WriteRequest)
    (record : Except LooseText.Unencodable Outgoing) (s : σ) : List Event :=
  (record.toOption.map Event.send).toList ++
    (promptSignal p record s).elim [] (w.fresh topic request false).stepsAt

/-- Of the steps of a send the producer sees the calls. -/
theorem producerCalls_sendSteps (w : Writer) (p : Producer σ) (topic : String)
    (request : WriteRequest) (record : Except LooseText.Unencodable Outgoing) (s : σ) :
    producerCalls (w.sendSteps p topic request record s) =
      w.sendCalls p topic request record s := by
  rw [sendSteps, sendCalls, producerCalls_append]
  congr 1
  · cases record <;> rfl
  · cases promptSignal p record s with
    | none => rfl
    | some signal => exact Publication.producerCalls_stepsAt _ signal

/-- A send closes as often as its first signal says. -/
theorem closes_sendCalls (w : Writer) (p : Producer σ) (topic : String) (request : WriteRequest)
    (record : Except LooseText.Unencodable Outgoing) (s : σ) (handedOver : Bool) :
    closes (w.sendCalls p topic request record s) =
      closes ((promptSignal p record s).elim [] (w.fresh topic request handedOver).callsAt) := by
  rw [sendCalls, closes_append]
  -- Handing over the record closes nothing, and whether it was taken on changes no call.
  have hsends : closes (record.toOption.map Event.send).toList = 0 := by
    cases record <;> rfl
  rw [hsends, Nat.zero_add]
  rfl

/-- A send that stays silent was taken on. -/
theorem takesOn_of_silent {p : Producer σ} {record : Except LooseText.Unencodable Outgoing} {s : σ}
    (hsilent : promptSignal p record s = none) : takesOn p record s = true := by
  cases record with
  | error e => cases hsilent
  | ok r =>
      simp only [promptSignal, takesOn] at hsilent ⊢
      cases hsend : (p.send r s).1 with
      | error f =>
          rw [hsend] at hsilent
          cases hsilent
      | ok signal? => rfl

/-- What a send comes to. The publication is fresh when the first signal comes, so the
    cases are those of the answer of the producer, and `receive_steps` does the rest. -/
theorem send_steps (w : Writer) (p : Producer σ) (topic : String) (request : WriteRequest)
    (timestamp : Option Instant) (headers : List (LooseText × Bytes)) (s : σ) :
    ∃ s' es, Dialogue.Yields (w.send p topic request timestamp headers) s
        (w.started p topic request (outgoing topic request timestamp headers) s) s' es ∧
      steps es = w.sendSteps p topic request (outgoing topic request timestamp headers) s := by
  simp only [send]
  cases hrecord : outgoing topic request timestamp headers with
  | error e =>
      -- A text without an encoded form stops the record on this side of the producer.
      rcases Publication.receive_steps (w.fresh topic request false)
        (.refused (.unencodable e)) p.close s with ⟨s', es, hes, hsteps⟩
      exact ⟨s', es, hes, hsteps⟩
  | ok record =>
      rcases hsend : p.send record s with ⟨answer, s₁⟩
      have hstart := (Dialogue.Yields.record (.send record) s)
      have hattempt := Dialogue.Yields.attempt hsend
      simp only [started, sendSteps, promptSignal, takesOn, hsend]
      cases answer with
      | error f =>
          rcases Publication.receive_steps (w.fresh topic request false) (.refused f) p.close s₁
            with ⟨s', es, hes, hsteps⟩
          refine ⟨s', _, hstart.bind (hattempt.bind hes), ?_⟩
          rw [steps_append, steps_append, hsteps]
          rfl
      | ok signal? =>
          cases signal? with
          | none =>
              exact ⟨s₁, _, hstart.bind (hattempt.bind (Dialogue.Yields.pure _ s₁)), rfl⟩
          | some signal =>
              rcases Publication.receive_steps (w.fresh topic request true) signal p.close s₁
                with ⟨s', es, hes, hsteps⟩
              refine ⟨s', _, hstart.bind (hattempt.bind hes), ?_⟩
              rw [steps_append, steps_append, hsteps]
              rfl

/-- Making the producer and handing it the record, once the checks have passed. -/
def afterChecks (w : Writer) (p : Producer σ) (topic : String) (request : WriteRequest)
    (timestamp : Option Instant) (headers : List (LooseText × Bytes)) :
    Exchange σ Publication := do
  Exchange.record .producerNew
  match ← Exchange.attempt p.create with
  | .ok () => Exchange.ofDialogue <| w.send p topic request timestamp headers
  | .error f =>
    if f.kind.isBrokerError then
      Exchange.ofDialogue <| (w.fresh topic request false).resolve (.failed (.sendFailed topic f))
    else throw (.fault f)

/-- Publishing is checking, and then making the producer and handing it the record. -/
theorem publish_eq (w : Writer) (p : Producer σ) (topic : String) (request : WriteRequest) :
    w.publish p topic request = (Exchange.ofExcept (w.checks request) >>= fun checked =>
      w.afterChecks p topic request checked.1 checked.2) := by
  rw [publish, checks]
  cases Moment.parse request.timestamp.toOption with
  | error e => rfl
  | ok timestamp =>
      cases request.headersOrNone.encode with
      | error e => rfl
      | ok headers =>
          cases Connection.producer w.settings with
          | error e => rfl
          | ok options => rfl

/-- A request that fails a check starts nothing and calls nothing. -/
theorem publish_unchecked {w : Writer} {request : WriteRequest} {e : Failure}
    (hchecks : w.checks request = .error e) (p : Producer σ) (topic : String) (s : σ) :
    Exchange.Yields (w.publish p topic request) s (.error e) s [] := by
  rw [publish_eq, hchecks]
  exact Exchange.Yields.bind_error (Exchange.Yields.ofExcept (.error e) s)

/-- With a producer, publishing is the send: the producer is made, and the steps of the
    send follow. -/
theorem publish_steps {w : Writer} {request : WriteRequest} {timestamp : Option Instant}
    {headers : List (LooseText × Bytes)} (hchecks : w.checks request = .ok (timestamp, headers))
    {p : Producer σ} {s s₀ : σ} (hcreate : p.create s = (.ok (), s₀)) (topic : String) :
    ∃ s' es, Exchange.Yields (w.publish p topic request) s
        (.ok (w.started p topic request (outgoing topic request timestamp headers) s₀)) s' es ∧
      steps es = .producerNew ::
        w.sendSteps p topic request (outgoing topic request timestamp headers) s₀ := by
  rcases send_steps w p topic request timestamp headers s₀ with ⟨s', es, hes, hsteps⟩
  refine ⟨s', [] ++ ([.producerNew] ++ ([] ++ es)), ?_, ?_⟩
  · rw [publish_eq, hchecks]
    exact Exchange.Yields.bind_ok (Exchange.Yields.ofExcept (.ok (timestamp, headers)) s)
      (Exchange.Yields.bind_ok (Exchange.Yields.record .producerNew s)
        (Exchange.Yields.bind_ok (Exchange.Yields.attempt hcreate)
          (Exchange.Yields.ofDialogue hes)))
  · rw [List.nil_append, steps_append, List.nil_append, hsteps]
    rfl

/-- Publishing with a producer, seen by the producer. -/
theorem publish_created {w : Writer} {request : WriteRequest} {timestamp : Option Instant}
    {headers : List (LooseText × Bytes)} (hchecks : w.checks request = .ok (timestamp, headers))
    {p : Producer σ} {s s₀ : σ} (hcreate : p.create s = (.ok (), s₀)) (topic : String) :
    ∃ s' es, Exchange.Yields (w.publish p topic request) s
        (.ok (w.started p topic request (outgoing topic request timestamp headers) s₀)) s' es ∧
      producerCalls es = .producerNew ::
        w.sendCalls p topic request (outgoing topic request timestamp headers) s₀ := by
  rcases publish_steps hchecks hcreate topic with ⟨s', es, hes, hsteps⟩
  refine ⟨s', es, hes, ?_⟩
  rw [← producerCalls_steps, hsteps, ← producerCalls_sendSteps]
  rfl

/-- The events when no producer could be made: a fault of the broker's family settles the
    publication, and nothing is called. -/
def uncreatedEvents (topic : String) (f : Fault) : List Event :=
  .producerNew ::
    if f.kind.isBrokerError then [.settled (.failed (.sendFailed topic f))] else []

/-- Without a producer, asking for it is the only call. -/
theorem producerCalls_uncreated (topic : String) (f : Fault) :
    producerCalls (uncreatedEvents topic f) = [.producerNew] := by
  rw [uncreatedEvents]
  split_ifs <;> rfl

/-- A producer that cannot be made is not called. A fault of the broker's family
    settles the publication, and any other is the failure of the whole. -/
theorem publish_uncreated {w : Writer} {request : WriteRequest} {timestamp : Option Instant}
    {headers : List (LooseText × Bytes)} (hchecks : w.checks request = .ok (timestamp, headers))
    {p : Producer σ} {s s₀ : σ} {f : Fault} (hcreate : p.create s = (.error f, s₀))
    (topic : String) :
    Exchange.Yields (w.publish p topic request) s
      (if f.kind.isBrokerError then
        .ok { w.fresh topic request false with outcome := some (.failed (.sendFailed topic f)) }
      else .error (.fault f)) s₀ (uncreatedEvents topic f) := by
  have hend : Exchange.Yields
      (if f.kind.isBrokerError then Exchange.ofDialogue <|
        (w.fresh topic request false).resolve (.failed (.sendFailed topic f))
      else throw (.fault f)) s₀
      (if f.kind.isBrokerError then
        .ok { w.fresh topic request false with outcome := some (.failed (.sendFailed topic f)) }
      else .error (.fault f)) s₀
      (if f.kind.isBrokerError then [.settled (.failed (.sendFailed topic f))] else []) := by
    split_ifs
    · exact Exchange.Yields.ofDialogue (Publication.resolve_yields _ _ s₀)
    · exact Exchange.Yields.ofExcept (.error (.fault f)) s₀
  rw [publish_eq, hchecks]
  exact Exchange.Yields.bind_ok (Exchange.Yields.ofExcept (.ok (timestamp, headers)) s)
    (Exchange.Yields.bind_ok (Exchange.Yields.record .producerNew s)
      (Exchange.Yields.bind_ok (Exchange.Yields.attempt hcreate) hend))

end Writer

end RecordGateway
