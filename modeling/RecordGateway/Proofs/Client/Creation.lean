import RecordGateway.Proofs.Publishing.Course
import RecordGateway.Proofs.Reading.Protocol

/-!
# When Clients Are Made

A read makes one consumer and a publication one producer, each of them right after the checks and
before any other call. If a check fails, no client is made and nothing else happens either.

That nothing later makes a second client is a matter of the sort of the events alone. No call of a
client that is there makes another, and so it is not needed to know which calls there are.

## Main definitions

* `Event.Later`: an event that makes no client.

## Theorems

* `Reader.read_checked`, `Writer.publish_checked`: if the checks pass, making a client is the first
  event, and no other event makes one.
-/

namespace RecordGateway

variable {σ : Type}

/-- Whether an event makes a client. -/
def Event.isCreation : Event → Bool
  | .consumerNew _ | .producerNew => true
  | _ => false

/-- An event that makes no client. -/
def Event.Later (e : Event) : Prop :=
  e.isCreation = false

/-- To make no client is decided by the kind of the event. -/
theorem Event.later {e : Event} (h : e.isCreation = false) : e.Later :=
  h

namespace Positions

open Exchange

/-- To find positions, only the consumer that is there is asked. -/
theorem find_emits (c : Consumer σ) (logs : List TopicPartition) (offset : Option Int)
    (since : Option Instant) : Emits Event.Later (find c logs offset since) := by
  cases since with
  | some t =>
      refine (Emits.call (Event.later rfl) _).bind fun answer => ?_
      -- If every log has an offset at the instant, the ends are not asked for.
      dsimp only
      split
      · exact (Emits.pure []).bind fun ends => Emits.ofExcept _
      · exact (Emits.call (Event.later rfl) _).bind fun ends => Emits.ofExcept _
  | none =>
      cases offset with
      | some o => exact (Emits.call (Event.later rfl) _).bind fun ends => Emits.ofExcept _
      | none => exact Emits.pure []

/-- To move the consumer, it is told once for each position. By induction on the positions. -/
theorem apply_emits (c : Consumer σ) (positions : Positions) :
    Emits Event.Later (apply c positions) := by
  induction positions with
  | nil => exact Emits.pure ()
  | cons move rest ih =>
      exact (Emits.record (Event.later rfl)).bind fun _ =>
        (Emits.call (Event.later rfl) _).bind fun _ => ih

end Positions

namespace Reader

open Exchange

/-- No step between making a consumer and closing it makes another one, in the order in which the
    steps are made. -/
theorem fetch_emits (r : Reader) (c : Consumer σ) (q : Query) (since : Option Instant)
    (wanted : List FieldName) : Emits Event.Later (r.fetch c q since wanted) := by
  refine (Emits.call (Event.later rfl) _).bind fun available => ?_
  refine (Emits.ofExcept _).bind fun logs => ?_
  refine (Emits.call (Event.later rfl) _).bind fun _ => ?_
  refine (Positions.find_emits c logs _ _).bind fun moves => ?_
  refine (Positions.apply_emits c moves).bind fun _ => ?_
  refine (Emits.call (Event.later rfl) _).bind fun batches => ?_
  refine (Emits.ofExcept _).bind fun page => ?_
  exact (Emits.record (Event.later rfl)).bind fun _ => Emits.pure page

/-- A query that passes the checks makes one consumer, before anything else. -/
theorem read_checked {r : Reader} {q : Query} {checked : Option Instant × List FieldName}
    (hchecks : r.checks q = .ok checked) (c : Consumer σ) (s : σ) :
    ∃ result s' es, Exchange.Yields (r.read c q) s result s'
        (.consumerNew (some q.limit) :: es) ∧ ∀ e ∈ es, e.Later := by
  rcases hcreate : c.create (some q.limit) s with ⟨answer, s₀⟩
  cases answer with
  -- The consumer cannot be made: that is the end, with no event but the first.
  | error f =>
      exact ⟨.error (.fault f), s₀, [], read_uncreated hchecks hcreate, List.forall_mem_nil _⟩
  | ok u =>
      have hclose : Emits Event.Later (Exchange.call .consumerClose c.close) :=
        Emits.call (Event.later rfl) c.close
      -- Closing is one more event that makes no client, whatever the outcome before it.
      have hrest := (fetch_emits r c q checked.1 checked.2).closing hclose
      rcases hrest s₀ with ⟨result, s', es, hyields, hes⟩
      exact ⟨result, s', es, read_created hchecks hcreate hyields, hes⟩

end Reader

namespace Publication

open Dialogue

/-- To fix an outcome is an event of its own. -/
theorem resolve_emits (p : Publication) (outcome : Outcome) :
    Emits Event.Later (p.resolve outcome : Dialogue σ Publication) :=
  (Emits.record (Event.later rfl)).bind fun _ => Emits.pure _

/-- Settling closes the producer, says so if that fails, and fixes the outcome. If the outcome is
    known already, nothing is done. -/
theorem settle_emits (p : Publication) (outcome : Outcome) (close : Number → Answer σ Unit) :
    Emits Event.Later (p.settle outcome close) := by
  unfold settle
  cases p.outcome with
  | some o => exact Emits.pure p
  | none =>
      refine (Emits.record (Event.later rfl)).bind fun _ => (Emits.attempt _).bind fun answer => ?_
      cases answer with
      | ok u => exact resolve_emits p outcome
      | error f => exact (Emits.record (Event.later rfl)).bind fun _ => resolve_emits p outcome

/-- A signal is told in the log or settles the publication, and may do both. -/
theorem receive_emits (p : Publication) (signal : Signal) (close : Number → Answer σ Unit) :
    Emits Event.Later (p.receive signal close) := by
  cases signal with
  | delivered metadata =>
      simp only [receive]
      cases p.storedRecord metadata with
      | ok record => exact settle_emits p _ close
      -- A record that cannot be shown fails the handler of the signal, and nothing is settled.
      | error e => exact (Emits.record (Event.later rfl)).bind fun _ => Emits.pure p
  | refused cause => exact (Emits.record (Event.later rfl)).bind fun _ => settle_emits p _ close

end Publication

namespace Writer

open Dialogue

/-- To send a record is one call, after which there may be a first signal at once. -/
theorem send_emits (w : Writer) (p : Producer σ) (topic : String) (request : WriteRequest)
    (timestamp : Option Instant) (headers : List (LooseText × Bytes)) :
    Emits Event.Later (w.send p topic request timestamp headers) := by
  unfold send
  cases outgoing topic request timestamp headers with
  -- A record that cannot be encoded is never handed over, and its refusal is the first signal.
  | error e => exact Publication.receive_emits _ _ _
  | ok record =>
      refine (Emits.record (Event.later rfl)).bind fun _ => (Emits.attempt _).bind fun answer => ?_
      cases answer with
      | error f => exact Publication.receive_emits _ _ _
      | ok signal? =>
          cases signal? with
          | none => exact Emits.pure _
          | some signal => exact Publication.receive_emits _ _ _

/-- A request that passes the checks makes one producer, before anything else. -/
theorem publish_checked {w : Writer} {request : WriteRequest} {timestamp : Option Instant}
    {headers : List (LooseText × Bytes)} (hchecks : w.checks request = .ok (timestamp, headers))
    (p : Producer σ) (topic : String) (s : σ) :
    ∃ result s' es, Exchange.Yields (w.publish p topic request) s result s' (.producerNew :: es) ∧
      ∀ e ∈ es, e.Later := by
  rcases hcreate : p.create s with ⟨answer, s₀⟩
  cases answer with
  | error f =>
      refine ⟨_, s₀, _, publish_uncreated hchecks hcreate topic, ?_⟩
      -- A broker error is written to the log first; any other fault is all there is.
      split_ifs
      · exact List.forall_mem_singleton.mpr rfl
      · exact List.forall_mem_nil _
  -- Whatever comes of the record, the events are those of the producer after its first.
  | ok u =>
      rcases send_emits w p topic request timestamp headers s₀ with ⟨sent, s', es, hyields, hes⟩
      refine ⟨.ok sent, s', es, ?_, hes⟩
      rw [publish_eq, hchecks]
      exact Exchange.Yields.bind_ok (Exchange.Yields.ofExcept (.ok (timestamp, headers)) s)
        (Exchange.Yields.bind_ok (Exchange.Yields.record .producerNew s)
          (Exchange.Yields.bind_ok (Exchange.Yields.attempt hcreate)
            (Exchange.Yields.ofDialogue hyields)))

end Writer

end RecordGateway
