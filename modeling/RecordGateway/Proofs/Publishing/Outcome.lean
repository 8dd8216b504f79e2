import RecordGateway.Proofs.Publishing.Settlement
import RecordGateway.Proofs.Record.Fields

/-!
# The First Signal Fixes the Outcome

The caller of a write waits for one value. It is fixed by the first signal that comes back, be it a
send that raises, a signal before the send returns, or one that comes at any time later. Signals
after it may say the opposite, and closing the producer may raise each time; the value stays.

What that value is can be said without the code that makes it. A delivery is shown as a record
whose fields come from the request and from the metadata of the broker. Four of its fields are
always there. The offset and the timestamp are there exactly if the broker gave one that is not
negative, so zero is shown. The kind of timestamp is never there. A refusal is a failed send that
holds the very cause, and only an unknown topic or partition makes it a matter of the caller.

## Main definitions

* `Publication.afterAll`, `Publication.callsThrough`: a publication after signals, and the calls
  on its producer meanwhile.
* `Publication.receiveAll`: handle signals one after another.
* `Publication.Final`: an outcome that no signal can change.
* `Metadata.ShownAs`: the record that a delivery is shown as.
* `Signal.Fixes`: the outcome that a first signal fixes.

## Theorems

* `Publication.receiveAll_yields`: what handling signals comes to.
* `Publication.final_of_settled`: the outcome of a settled publication is final.
* `Publication.shownAs_storedRecord`: a stored record shows the request and the metadata.
* `Writer.outcome_of_first_signal`: the first signal fixes the outcome of a write.
-/

namespace RecordGateway

variable {σ : Type}

namespace Publication

/-- The publication after signals, one after another. -/
def afterAll (p : Publication) (signals : List Signal) : Publication :=
  signals.foldl after p

/-- The calls on the producer while signals are handled, one after another. -/
def callsThrough (p : Publication) : List Signal → List Event
  | [] => []
  | signal :: rest => p.callsAt signal ++ (p.after signal).callsThrough rest

/-- Handle signals one after another. -/
def receiveAll (p : Publication) (close : Number → Answer σ Unit) :
    List Signal → Dialogue σ Publication
  | [] => pure p
  | signal :: rest => do
    let settled ← p.receive signal close
    settled.receiveAll close rest

/-- What handling signals comes to: the publication after them, and the calls on its producer.
    Neither depends on how the producer is closed. -/
theorem receiveAll_yields (p : Publication) (close : Number → Answer σ Unit)
    (signals : List Signal) (s : σ) :
    ∃ s' es, Dialogue.Yields (p.receiveAll close signals) s (p.afterAll signals) s' es ∧
      producerCalls es = p.callsThrough signals := by
  induction signals generalizing p s with
  | nil => exact ⟨s, [], Dialogue.Yields.pure p s, rfl⟩
  | cons signal rest ih =>
      rcases receive_yields p signal close s with ⟨s₁, es₁, hfirst, hcalls₁⟩
      rcases ih (p.after signal) s₁ with ⟨s₂, es₂, hrest, hcalls₂⟩
      refine ⟨s₂, es₁ ++ es₂, hfirst.bind hrest, ?_⟩
      rw [producerCalls_append, hcalls₁, hcalls₂, callsThrough]

theorem afterAll_settled {p : Publication} {o : Outcome} (hp : p.outcome = some o)
    (signals : List Signal) : p.afterAll signals = p := by
  induction signals with
  | nil => rfl
  | cons signal rest ih =>
      rw [afterAll, List.foldl_cons, after_settled hp signal]
      exact ih

/-- An outcome that is there for good: whatever signals come, in whatever world, and whether or not
    closing raises. -/
def Final (p : Publication) (o : Outcome) : Prop :=
  ∀ (σ : Type) (close : Number → Answer σ Unit) signals s,
    ((p.receiveAll close signals).run s).1.outcome = some o

theorem final_of_settled {p : Publication} {o : Outcome} (hp : p.outcome = some o) :
    p.Final o := by
  intro σ close signals s
  rcases receiveAll_yields p close signals s with ⟨s', es, hes, -⟩
  rw [hes.run_eq, afterAll_settled hp]
  exact hp

end Publication

/-- What a record shows that answers a request and that the broker stored as its metadata say. -/
structure Metadata.ShownAs (m : Metadata) (request : WriteRequest) (record : Record) : Prop where
  /-- Four fields are always there, and two are there if the broker gave what they show. -/
  fields : ∀ f, record.isSet f = true ↔
    f ∈ [FieldName.partition, .key, .value, .headers] ∨
      (f = .offset ∧ ∃ n, m.offset = some n ∧ 0 ≤ n) ∨
      (f = .timestamp ∧ ∃ t, m.timestamp = some t ∧ 0 ≤ t)
  /-- The partition is that of the metadata. -/
  partition : record.partition = .ofOption m.partition
  /-- So is the offset. -/
  offset : ∀ n, m.offset = some n → 0 ≤ n → record.offset = .value n
  /-- The timestamp is the text of the instant in the metadata. -/
  timestamp : ∀ t, m.timestamp = some t → 0 ≤ t →
    ∃ text, t.render = .ok text ∧ record.timestamp = .value text
  /-- The key is that of the request, null included. -/
  key : record.key = .ofOption request.key.toOption
  /-- So is the value. -/
  value : record.value = .value request.value
  /-- So are the headers; none when none were given. -/
  headers : record.headers = .value request.headersOrNone

/-- The outcome that a first signal fixes: the record that a delivery is shown as, or a failed send
    with the very cause of a refusal. -/
def Signal.Fixes (topic : String) (request : WriteRequest) : Signal → Outcome → Prop
  | .delivered metadata, o => ∃ record, o = .stored record ∧ metadata.ShownAs request record
  | .refused cause, o => ∃ failure, o = .failed failure ∧ failure = .sendFailed topic cause ∧
      failure.status = if cause.kind = .unknownTopicOrPartition then 404 else 500

namespace Reported

theorem isSet_offset (reported : Option Int) :
    (offset reported).isSet = true ↔ ∃ n, reported = some n ∧ 0 ≤ n := by
  cases reported with
  | none => simp [offset]
  | some n =>
      by_cases hneg : n < 0
      · simp [offset, hneg]
      · simp [offset, hneg, Int.not_lt.mp hneg]

end Reported

namespace Publication

/-- A stored record shows what the request says and what the broker reports. -/
theorem shownAs_storedRecord {p : Publication} {m : Metadata} {record : Record}
    (h : p.storedRecord m = .ok record) : m.ShownAs p.request record := by
  rw [storedRecord] at h
  cases htimestamp : Reported.timestamp m.timestamp with
  | error e =>
      rw [htimestamp] at h
      cases h
  | ok slot =>
      rw [htimestamp] at h
      cases h
      rcases Reported.timestamp_eq_ok htimestamp with ⟨hset, htext⟩
      refine ⟨fun f => ?_, rfl, fun n hn hnonneg => ?_, htext, rfl, rfl, rfl⟩
      · cases f with
        | offset => simpa [Record.isSet] using Reported.isSet_offset m.offset
        | timestamp => simpa [Record.isSet] using hset
        | _ => simp [Record.isSet]
      · simp only [Reported.offset, hn, if_neg (Int.not_lt.mpr hnonneg)]

/-- A showable first signal fixes the outcome, once and for all. -/
theorem final_of_showable {p : Publication} (hp : p.outcome = none) {first : Signal}
    (hfirst : first.Showable) :
    ∃ o, first.Fixes p.topic p.request o ∧ (p.after first).Final o := by
  rcases Option.isSome_iff_exists.mp ((ending?_isSome_iff p first).mpr hfirst) with ⟨o, ho⟩
  have hsettled : (p.after first).outcome = some o := by
    rw [after, hp, ho, Option.none_or]
  refine ⟨o, ?_, final_of_settled hsettled⟩
  cases first with
  | delivered metadata =>
      rw [ending?] at ho
      cases hrecord : p.storedRecord metadata with
      | ok record =>
          rw [hrecord] at ho
          cases ho
          exact ⟨record, rfl, shownAs_storedRecord hrecord⟩
      | error e =>
          rw [hrecord] at ho
          cases ho
  | refused cause =>
      cases ho
      exact ⟨_, rfl, rfl, rfl⟩

/-- A first signal that comes later is handled before all others. -/
theorem receiveAll_cons_outcome {p : Publication} {first : Signal} {o : Outcome}
    (h : (p.after first).Final o) (close : Number → Answer σ Unit) (later : List Signal) (s : σ) :
    ((p.receiveAll close (first :: later)).run s).1.outcome = some o := by
  rcases receiveAll_yields p close (first :: later) s with ⟨s', es, hes, -⟩
  rcases receiveAll_yields (p.after first) close later s with ⟨s'', es', hes', -⟩
  have hfinal := h σ close later s
  rw [hes'.run_eq] at hfinal
  rw [hes.run_eq]
  exact hfinal

end Publication

namespace Writer

/-- The outcome of a write that gets as far as a producer is fixed by the first signal, if what it
    says can be shown. A text without an encoded form and a send that raises refuse the record at
    once. Otherwise the first signal comes before the send returns, or it is the first of those
    that come later, in whatever world there is then. In each case the outcome is the one that this
    signal calls for, and it stays, whatever the later signals say and whether or not closing
    raises. -/
theorem outcome_of_first_signal (w : Writer) (p : Producer σ) (topic : String)
    (request : WriteRequest) (s s₀ : σ)
    (hasked : .producerNew ∈ ((w.publish p topic request).run s).2.events)
    (hcreated : p.create s = (.ok (), s₀)) :
    ∃ timestamp headers publication s₁ events,
      w.checks request = .ok (timestamp, headers) ∧
      (w.publish p topic request).run s = (.ok publication, ⟨s₁, events⟩) ∧
      match outgoing topic request timestamp headers with
      | .error e => ∃ o, (Signal.refused (.unencodable e)).Fixes topic request o ∧
          publication.Final o
      | .ok record => match (p.send record s₀).1 with
        | .error cause => ∃ o, (Signal.refused cause).Fixes topic request o ∧ publication.Final o
        | .ok (some first) => first.Showable →
            ∃ o, first.Fixes topic request o ∧ publication.Final o
        | .ok none => ∀ first : Signal, first.Showable → ∃ o, first.Fixes topic request o ∧
            ∀ (τ : Type) (close : Number → Answer τ Unit) later s₂,
              ((publication.receiveAll close (first :: later)).run s₂).1.outcome = some o := by
  cases hchecks : w.checks request with
  | error e =>
      -- A request that fails a check never asks for a producer.
      rw [(publish_unchecked hchecks p topic s).run_eq] at hasked
      cases hasked
  | ok checked =>
      rcases checked with ⟨timestamp, headers⟩
      rcases publish_created hchecks hcreated topic with ⟨s₁, es, hes, -⟩
      refine ⟨timestamp, headers, _, s₁, es, rfl, hes.run_eq, ?_⟩
      -- On every path the first signal meets a fresh publication of this request.
      have hfixes : ∀ (handedOver : Bool) (first : Signal), first.Showable →
          ∃ o, first.Fixes topic request o ∧
            ((w.fresh topic request handedOver).after first).Final o :=
        fun handedOver first hfirst =>
          Publication.final_of_showable (p := w.fresh topic request handedOver) rfl hfirst
      simp only [started]
      cases hrecord : outgoing topic request timestamp headers with
      | error e => exact hfixes false (.refused (.unencodable e)) trivial
      | ok record =>
          simp only [promptSignal, takesOn]
          cases hsend : (p.send record s₀).1 with
          | error cause => exact hfixes false (.refused cause) trivial
          | ok signal? =>
              cases signal? with
              | some first => exact hfixes true first
              | none =>
                  intro first hfirst
                  rcases hfixes true first hfirst with ⟨o, ho, hfinal⟩
                  refine ⟨o, ho, fun τ close later s₂ => ?_⟩
                  exact Publication.receiveAll_cons_outcome hfinal close later s₂

/-- A delivery at offset zero and at the epoch, after which a refusal and another delivery come,
    while the producer raises whenever it is closed. -/
theorem outcome_of_delivery_at_zero :
    .producerNew ∈ ((impatient.publish (told none) "t" sampleRequest).run ()).2.events ∧
    (told none).create () = (.ok (), ()) ∧
    (Signal.delivered ⟨some 0, some 0, some 0⟩).Showable ∧
    ∃ publication events record,
      (impatient.publish (told none) "t" sampleRequest).run () = (.ok publication, ⟨(), events⟩) ∧
      ((publication.receiveAll (told none).close [.delivered ⟨some 0, some 0, some 0⟩,
        .refused ⟨.timeout, none⟩, .delivered ⟨some 1, none, some 5⟩]).run ()).1.outcome =
          some (.stored record) ∧
      record.offset = .value 0 ∧ record.isSet .timestamp = true ∧
      record.isSet .timestampType = false := by
  have hasked : .producerNew ∈
      ((impatient.publish (told none) "t" sampleRequest).run ()).2.events := by
    decide +kernel
  have hshow : (Signal.delivered ⟨some 0, some 0, some 0⟩).Showable := by
    rintro t ⟨⟩
    decide
  rcases outcome_of_first_signal impatient (told none) "t" sampleRequest () () hasked rfl with
    ⟨timestamp, headers, publication, s₁, events, hchecks, hrun, hfixed⟩
  cases hchecks
  rcases hfixed _ hshow with ⟨o, ⟨record, rfl, hrecord⟩, hfinal⟩
  refine ⟨hasked, rfl, hshow, publication, events, record, hrun, hfinal _ _ _ _, ?_, ?_, ?_⟩
  · exact hrecord.offset 0 rfl (Int.le_refl 0)
  · exact (hrecord.fields .timestamp).mpr (.inr (.inr ⟨rfl, 0, rfl, Int.le_refl 0⟩))
  · rw [← Bool.not_eq_true, hrecord.fields]
    simp

end Writer

end RecordGateway
