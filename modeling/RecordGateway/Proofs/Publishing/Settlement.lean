import RecordGateway.Proofs.Publishing.Course

/-!
# Every Send Is Settled by Its First Signal, or Never

A caller who publishes a record waits for its publication to be settled, and the
producer that was made for it has to be closed. Both depend on the first signal
that comes back.

Between that signal and the settlement one step can fail: a delivered record is
shown to the caller with the timestamp that the broker gave it, and a timestamp
after the last instant of the calendar has no text. Then the callback fails inside
the client, where nobody sees it. The publication stays pending and the producer
stays open. Every other signal settles the publication after one close: a refusal,
a send that raises, and a delivery with any partition, any offset and any
timestamp up to the end of year 9999, negative ones included.

So the condition is exact. It has nothing to do with when the signal comes, with
what the request holds, or with whether closing the producer raises.

## Main definitions

* `Signal.Showable`: a signal whose record can be shown.
* `Signal.Ends`: the outcome that a signal calls for.
* `SettledBy`: what the first signal has made of a publication.
* `impatient`, `sampleRequest`, `told`: a writer, a request and a producer to run.

## Theorems

* `ending?_isSome_iff`: a signal ends a publication exactly if it is showable.
* `settledBy_after`: the first signal settles a publication or leaves it alone.
* `first_signal_settles_iff`: the same for every publication with a producer.
* `delivery_after_calendar_hangs`: a delivery that settles nothing.
-/

namespace RecordGateway

variable {σ : Type}

namespace Signal

/-- A signal whose record can be shown: a timestamp that the broker gives lies
    before the end of the calendar. -/
def Showable : Signal → Prop
  | .delivered metadata => ∀ t, metadata.timestamp = some t → t ≤ Instant.last
  | .refused _ => True

/-- The outcome that a signal calls for: a record for a delivery, and a failed send
    with the very cause for a refusal. -/
def Ends (topic : String) : Signal → Option Outcome → Prop
  | .delivered _, outcome => ∃ record, outcome = some (.stored record)
  | .refused cause, outcome => outcome = some (.failed (.sendFailed topic cause))

end Signal

/-- What the first signal has made of a publication, given the events so far: settled
    as the signal calls for and closed once, or, if the record cannot be shown, left
    pending with its producer open. -/
structure SettledBy (signal : Signal) (p : Publication) (events : List Event) : Prop where
  /-- A showable signal settles. -/
  settled : signal.Showable → closes events = 1 ∧ signal.Ends p.topic p.outcome
  /-- Any other does nothing. -/
  hanging : ¬ signal.Showable → closes events = 0 ∧ p.outcome = none

namespace Publication

theorem ending?_isSome_iff (p : Publication) (signal : Signal) :
    (p.ending? signal).isSome ↔ signal.Showable := by
  cases signal with
  | delivered metadata =>
      rw [Signal.Showable, ← storedRecord_isOk_iff p metadata, ending?]
      cases p.storedRecord metadata with
      | ok record => simp only [Option.isSome_some, Except.ok.injEq, exists_eq']
      | error e => simp only [Option.isSome_none, Bool.false_eq_true, reduceCtorEq, exists_false]
  | refused cause => simp only [ending?, Option.isSome_some, Signal.Showable]

/-- What ends a publication is what the signal calls for, the very cause included. -/
theorem ends_of_ending? {p : Publication} {signal : Signal} {o : Outcome}
    (hend : p.ending? signal = some o) : signal.Ends p.topic (some o) := by
  cases signal with
  | delivered metadata =>
      rw [ending?] at hend
      cases hrecord : p.storedRecord metadata with
      | ok record =>
          rw [hrecord] at hend
          exact ⟨record, hend.symm⟩
      | error e =>
          rw [hrecord] at hend
          cases hend
  | refused cause => exact hend.symm

/-- The first signal settles a pending publication or leaves it alone, and it closes
    the producer exactly when it settles. -/
theorem settledBy_after {p : Publication} (hp : p.outcome = none) (signal : Signal)
    {events : List Event} (hcloses : closes events = closes (p.callsAt signal)) :
    SettledBy signal (p.after signal) events := by
  have hiff := ending?_isSome_iff p signal
  cases hend : p.ending? signal with
  | some o =>
      refine ⟨fun _ => ⟨?_, ?_⟩, fun hnot => ?_⟩
      · rw [hcloses]
        simp only [callsAt, hp, hend, Option.isNone_none, Option.isSome_some, and_self, if_true]
        rfl
      · simp only [after, hp, hend, Option.none_or]
        exact ends_of_ending? hend
      · rw [hend] at hiff
        exact absurd (hiff.mp rfl) hnot
  | none =>
      refine ⟨fun hshow => ?_, fun _ => ⟨?_, ?_⟩⟩
      · rw [hend] at hiff
        exact absurd (hiff.mpr hshow) (by decide)
      · rw [hcloses]
        simp only [callsAt, hend, Option.isSome_none, Bool.false_eq_true, and_false, if_false]
        rfl
      · rw [after_unended hp hend, hp]

end Publication

namespace Writer

/-- Every publication that gets as far as a producer is settled by its first signal,
    after exactly one close of the producer, if and only if the signal is showable.
    The first signal may come while the record is sent, a send that raises included,
    or in any later world; closing may answer or raise. -/
theorem first_signal_settles_iff (w : Writer) (p : Producer σ) (topic : String)
    (request : WriteRequest) (s s₀ : σ)
    (hasked : .producerNew ∈ ((w.publish p topic request).run s).2.events)
    (hcreated : p.create s = (.ok (), s₀)) :
    ∃ timestamp headers publication s₁ events,
      w.checks request = .ok (timestamp, headers) ∧
      (w.publish p topic request).run s = (.ok publication, ⟨s₁, events⟩) ∧
      publication.topic = topic ∧
      match promptSignal p (outgoing topic request timestamp headers) s₀ with
      | some signal => SettledBy signal publication events
      | none => publication.outcome = none ∧ publication.handedOver = true ∧ closes events = 0 ∧
          ∀ signal s₂, ∃ settled s₃ later,
            (publication.receive signal p.close).run s₂ = (settled, ⟨s₃, later⟩) ∧
            SettledBy signal settled (events ++ later) := by
  cases hchecks : w.checks request with
  | error e =>
      -- A request that fails a check never asks for a producer.
      rw [(publish_unchecked hchecks p topic s).run_eq] at hasked
      cases hasked
  | ok checked =>
      rcases checked with ⟨timestamp, headers⟩
      rcases publish_created hchecks hcreated topic with ⟨s₁, es, hes, hcalls⟩
      -- The closes of the whole are those of the send.
      refine ⟨timestamp, headers, _, s₁, es, rfl, hes.run_eq, ?_⟩
      have hcloses : closes es = closes (w.sendCalls p topic request
          (outgoing topic request timestamp headers) s₀) := by
        rw [← closes_producerCalls, hcalls]
        rfl
      rw [closes_sendCalls w p topic request _ s₀ (takesOn p _ s₀)] at hcloses
      simp only [started]
      -- A signal before the send returns is handled on the fresh publication, a later one
      -- on the same publication, in whatever world there is then.
      cases hprompt : promptSignal p (outgoing topic request timestamp headers) s₀ with
      | some signal =>
          rw [hprompt] at hcloses
          exact ⟨rfl, Publication.settledBy_after rfl signal hcloses⟩
      | none =>
          rw [hprompt] at hcloses
          refine ⟨rfl, rfl, takesOn_of_silent hprompt, hcloses, fun signal s₂ => ?_⟩
          rcases Publication.receive_yields _ signal p.close s₂ with ⟨s₃, later, hlater, hcalls'⟩
          refine ⟨_, s₃, later, hlater.run_eq, Publication.settledBy_after rfl signal ?_⟩
          rw [closes_append, hcloses, ← closes_producerCalls later, hcalls']
          exact Nat.zero_add _

/-- A writer with default settings that does not wait for a producer to close. -/
def impatient : Writer :=
  ⟨{}, .whole 0⟩

/-- A request with a key and a value and nothing else. -/
def sampleRequest : WriteRequest :=
  { partition := .unset, timestamp := .unset, key := .value (.ofString "k"), value := .ofString "v"
    headers := none }

/-- A producer that takes on every record, signals what it is told to, and raises
    when it is closed. -/
def told (signal? : Option Signal) : Producer Unit :=
  { create := fun s => (.ok (), s)
    send := fun _ s => (.ok signal?, s)
    close := fun _ s => (.error ⟨.timeout, none⟩, s) }

/-- A send that stays silent, with a producer that raises when it is closed. -/
theorem first_signal_settles_silent_send :
    .producerNew ∈ ((impatient.publish (told none) "t" sampleRequest).run ()).2.events ∧
    (told none).create () = (.ok (), ()) ∧
    ∃ timestamp headers publication s₁ events,
      impatient.checks sampleRequest = .ok (timestamp, headers) ∧
      (impatient.publish (told none) "t" sampleRequest).run () = (.ok publication, ⟨s₁, events⟩) ∧
      publication.topic = "t" ∧
      match promptSignal (told none) (outgoing "t" sampleRequest timestamp headers) () with
      | some signal => SettledBy signal publication events
      | none => publication.outcome = none ∧ publication.handedOver = true ∧ closes events = 0 ∧
          ∀ signal s₂, ∃ settled s₃ later,
            (publication.receive signal (told none).close).run s₂ = (settled, ⟨s₃, later⟩) ∧
            SettledBy signal settled (events ++ later) := by
  have hasked : .producerNew ∈
      ((impatient.publish (told none) "t" sampleRequest).run ()).2.events := by
    decide +kernel
  exact ⟨hasked, rfl,
    first_signal_settles_iff impatient (told none) "t" sampleRequest () () hasked rfl⟩

/-- One millisecond after the calendar is enough: the broker has stored the record,
    and still the publication is pending and its producer open. -/
theorem delivery_after_calendar_hangs :
    ∃ publication events,
      (impatient.publish (told (some (.delivered ⟨some 0, some 0, some 253402300800000⟩))) "t"
        sampleRequest).run () = (.ok publication, ⟨(), events⟩) ∧
      publication.handedOver = true ∧ publication.outcome = none ∧ closes events = 0 :=
  ⟨_, _, rfl, rfl, rfl, by decide +kernel⟩

end Writer

end RecordGateway
