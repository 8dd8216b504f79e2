import RecordGateway.Proofs.Publishing.Outcome
import RecordGateway.Proofs.Session.Lifecycle

/-!
# Writes Are Isolated

Many writes may be under way at once, and they share one writer, one broker and one list of sends.
Still, what a write comes to depends on three things only: what it asks for, what the client answers
to its own calls, and the signals for its own send, in their order. So two runs of a session in
which these agree leave the write in the same state after the same calls, whatever else happens
before, between and after, and in which order.

A run is looked at from one write: the turns before it, the turn that asks for it, and the turns
after it. Two interleavings of the same turns are two such runs for each of their writes, and the
number that a send gets may differ between them. Nothing is assumed of the other turns, so the two
runs need not even consist of the same ones.

The argument has two halves. The turn that asks for a write is followed through the checks, the
making of the producer and the send, each of which reads its own request and its own answers alone.
After that, the publication is carried through the later turns: a signal for its send applies
`Publication.after`, and every other turn leaves it as it is.

## Main definitions

* `Writer.begun`: what a turn that asks for a write leaves, and its calls.
* `Session.AnsweredAlike`: the client answers the calls of two such turns in the same way.
* `Session.ownSignals`: the signals that come for the send of a write.

## Theorems

* `Writer.begun_congr`: what is left depends on the answers alone.
* `Session.begins`: a turn that asks for a write leaves what the writer has begun.
* `Session.send_afterAll`: a send after later turns is what its own signals make of it.
* `Session.leaves_signal`: what a signal changes, and what it calls.
* `Session.writes_isolated`: isolation of writes.
-/

namespace RecordGateway

variable {σ τ : Type}

/-- What a turn that asks for a write leaves. -/
inductive Begun where
  /-- A report that stays. -/
  | unsent (report : Report)
  /-- A send that is under way, with its publication. -/
  | sent (p : Publication)

namespace Begun

/-- A publication is a send under way if a producer took it on. -/
def ofPublication (p : Publication) : Begun :=
  if p.handedOver then .sent p else .unsent (.publication p)

/-- Without a producer, a fault of the broker's family is the end of the publication `fresh`, and
    any other is a failure before there was a publication. -/
def uncreated (fresh : Publication) (f : Fault) : Begun :=
  if f.kind.isBrokerError then
    .unsent (.publication { fresh with outcome := some (.failed (.sendFailed fresh.topic f)) })
  else .unsent (.failure (.fault f))

end Begun

namespace Writer

/-- What a turn leaves that writes the record of a form, and the calls on the producer in it. -/
def begun (w : Writer) (p : Producer σ) (topic : String) (form : Json.Members) (world : σ) :
    Begun × List Event :=
  match (WriteRequest.check form).toExcept with
  | .error issues => (.unsent (.malformed issues), [])
  | .ok request =>
    match w.checks request with
    | .error failure => (.unsent (.failure failure), [])
    | .ok (timestamp, headers) =>
      let record := outgoing topic request timestamp headers
      match p.create world with
      | (.error f, _) => (.uncreated (w.fresh topic request false) f, [.producerNew])
      | (.ok (), world') =>
        (.ofPublication (w.started p topic request record world'),
          .producerNew :: w.sendCalls p topic request record world')

/-- A send that is answered alike starts the same publication with the same calls. -/
theorem started_congr (w : Writer) {p : Producer σ} {q : Producer τ} {s : σ} {t : τ}
    (topic : String) (request : WriteRequest) {record : Except LooseText.Unencodable Outgoing}
    (h : ∀ r, record = .ok r → (p.send r s).1 = (q.send r t).1) :
    w.started p topic request record s = w.started q topic request record t ∧
      w.sendCalls p topic request record s = w.sendCalls q topic request record t := by
  cases record with
  | error e => exact ⟨rfl, rfl⟩
  | ok r => simp only [started, sendCalls, promptSignal, takesOn, h r rfl, and_self]

/-- What a write leaves depends on the world through the answers alone. The answer to a send counts
    only for the record that is handed over. -/
theorem begun_congr (w : Writer) {p : Producer σ} {q : Producer τ} {s : σ} {t : τ} (topic : String)
    (form : Json.Members) (hcreate : (p.create s).1 = (q.create t).1)
    (hsend : ∀ r, .send r ∈ (w.begun p topic form s).2 →
      (p.send r (p.create s).2).1 = (q.send r (q.create t).2).1) :
    w.begun p topic form s = w.begun q topic form t := by
  unfold begun at hsend ⊢
  cases hform : (WriteRequest.check form).toExcept with
  | error issues => rfl
  | ok request =>
      rw [hform] at hsend
      dsimp only at hsend ⊢
      cases hchecks : w.checks request with
      | error failure => rfl
      | ok checked =>
          rcases checked with ⟨timestamp, headers⟩
          rw [hchecks] at hsend
          dsimp only at hsend ⊢
          rcases hp : p.create s with ⟨answer, s'⟩
          rcases hq : q.create t with ⟨answer', t'⟩
          rw [hp, hq] at hcreate
          rw [hp, hq] at hsend
          cases hcreate
          cases answer with
          | error f => rfl
          | ok u =>
              -- The record that has an encoded form is the one that is handed over.
              have hrecord : ∀ r, outgoing topic request timestamp headers = .ok r →
                  (p.send r s').1 = (q.send r t').1 := by
                intro r hr
                refine hsend r (List.mem_cons_of_mem _ ?_)
                rw [sendCalls, hr]
                exact List.mem_cons_self
              rcases w.started_congr topic request hrecord with ⟨hstarted, hcalls⟩
              simp only [hstarted, hcalls]

end Writer

namespace Turn

/-- The signal with which a turn ends the send with a number, if it does. -/
def signalFor? (n : Nat) (t : Turn) : Option Signal :=
  match t.action with
  | .signal m signal _ => if m = n then some signal else none
  | _ => none

/-- A turn brings no signal for a send exactly if it does not signal it. -/
theorem signalFor?_eq_none_iff (n : Nat) (t : Turn) :
    t.signalFor? n = none ↔ t.signals n = false := by
  unfold signalFor? signals
  cases t.action with
  | signal m signal write =>
      dsimp only
      rw [beq_eq_false_iff_ne]
      by_cases h : m = n
      · rw [if_pos h]
        exact iff_of_false (Option.some_ne_none signal) (not_not_intro h)
      · rw [if_neg h]
        exact iff_of_true rfl h
  | _ => exact iff_of_true rfl rfl

/-- A turn that signals a send does nothing else. -/
theorem action_of_signalFor? {n : Nat} {t : Turn} {signal : Signal}
    (h : t.signalFor? n = some signal) : ∃ write, t.action = .signal n signal write := by
  rw [signalFor?] at h
  split at h
  · rename_i m other write haction
    split_ifs at h with hm
    cases h
    exact ⟨write, hm ▸ haction⟩
  · cases h

end Turn

namespace Session

/-- The signals for the send with a number in turns, in order. -/
def signalsFor (n : Nat) (ts : List Turn) : List Signal :=
  ts.filterMap (Turn.signalFor? n)

/-! ### The turn of a write -/

/-- What a turn that asks for a write leaves in the session. -/
inductive Leaves (s : Session) (t : Turn) : Begun → Prop where
  /-- A report that stays is put among the writes. -/
  | unsent {report : Report} (h : (s.after t).writes = s.writes ++ [.unsent report]) :
      Leaves s t (.unsent report)
  /-- A send under way is put among the sends, and the write refers to it. -/
  | sent {p : Publication} (hwrites : (s.after t).writes = s.writes ++ [.sent s.sends.length])
      (hsends : (s.after t).sends = s.sends ++ [p]) : Leaves s t (.sent p)

/-- A publication is among the sends exactly if a producer took it on. -/
theorem leaves_ofPublication {s : Session} {t : Turn} {p : Publication}
    (hwrites : (s.after t).writes = (s.afterPublication p).writes)
    (hsends : (s.after t).sends = (s.afterPublication p).sends) :
    s.Leaves t (.ofPublication p) := by
  rw [Begun.ofPublication]
  cases htaken : p.handedOver with
  | true =>
      rw [if_pos rfl]
      rcases afterPublication_sent htaken s with ⟨hwrites', hsends'⟩
      exact .sent (hwrites.trans hwrites') (hsends.trans hsends')
  | false =>
      rw [if_neg Bool.false_ne_true]
      exact .unsent (hwrites.trans (afterPublication_unsent htaken s))

/-- A turn that asks for a write leaves what the writer has begun, after its calls. -/
theorem begins {s : Session} {t : Turn} {topic : String} {form : Json.Members}
    (haction : t.action = .write topic form) :
    s.Leaves t (s.writer.begun Broker.producer topic form (s.brokerIn t)).1 ∧
      producerCalls (s.eventsIn t) =
        (s.writer.begun Broker.producer topic form (s.brokerIn t)).2 := by
  unfold Writer.begun
  cases hform : (WriteRequest.check form).toExcept with
  -- A form that is refused leaves its issues, without a call.
  | error issues =>
      have hact : Dialogue.Yields (s.act t.action) (s.brokerIn t)
          (.malformed issues, s.withWrite (.unsent (.malformed issues))) (s.brokerIn t) [] := by
        rw [haction]
        simp only [act, hform]
        exact Dialogue.Yields.pure _ _
      rcases perform_eq hact with ⟨hevents, hafter⟩
      exact ⟨.unsent (by rw [hafter]; rfl), by rw [hevents]; rfl⟩
  | ok request =>
      dsimp only
      cases hchecks : s.writer.checks request with
      | error failure =>
          rcases perform_write haction hform (Writer.publish_unchecked hchecks Broker.producer
            topic (s.brokerIn t)) with ⟨hevents, hwrites, -⟩
          exact ⟨.unsent hwrites, by rw [hevents]; rfl⟩
      | ok checked =>
          rcases checked with ⟨timestamp, headers⟩
          dsimp only
          rcases hcreate : Broker.producer.create (s.brokerIn t) with ⟨answer, b⟩
          cases answer with
          | error f =>
              have hpublish := Writer.publish_uncreated hchecks hcreate topic
              dsimp only
              rw [Begun.uncreated]
              -- Without a producer there is a publication that has failed, or a failure.
              by_cases hbroker : f.kind.isBrokerError
              · rw [if_pos hbroker] at hpublish ⊢
                rcases perform_write haction hform hpublish with ⟨hevents, hwrites, -⟩
                exact ⟨.unsent (hwrites.trans (afterPublication_unsent rfl s)),
                  by rw [hevents, Writer.producerCalls_uncreated]⟩
              · rw [if_neg hbroker] at hpublish ⊢
                rcases perform_write haction hform hpublish with ⟨hevents, hwrites, -⟩
                exact ⟨.unsent hwrites, by rw [hevents, Writer.producerCalls_uncreated]⟩
          | ok u =>
              rcases Writer.publish_created hchecks hcreate topic with ⟨b', es, hes, hcalls⟩
              rcases perform_write haction hform hes with ⟨hevents, hwrites, hsends⟩
              exact ⟨leaves_ofPublication hwrites hsends, by rw [hevents]; exact hcalls⟩

/-! ### The turns after it -/

/-- What a signal for a send does: it makes of this send what comes after the signal, and nothing
    of any other, and it calls the producer of this send alone. -/
theorem leaves_signal {s : Session} {n : Nat} {p : Publication} (hp : s.sends[n]? = some p)
    {t : Turn} {signal : Signal} (ht : t.signalFor? n = some signal) :
    (s.after t).sends = s.sends.set n (p.after signal) ∧ (s.after t).writes = s.writes ∧
      producerCalls (s.eventsIn t) = p.callsAt signal := by
  rcases Turn.action_of_signalFor? ht with ⟨write, haction⟩
  rcases act_signal hp signal write (s.brokerIn t) with ⟨b, es, hes, hsteps⟩
  rw [← haction] at hes
  rcases perform_eq hes with ⟨hevents, hafter⟩
  rw [hafter, hevents, ← producerCalls_steps, hsteps, Publication.producerCalls_stepsAt]
  exact ⟨rfl, rfl, rfl⟩

/-- A send after later turns is what its own signals make of it, and so are its calls. -/
theorem send_afterAll {n : Nat} (ts : List Turn) {s : Session} {p : Publication}
    (hp : s.sends[n]? = some p) :
    (s.afterAll ts).sends[n]? = some (p.afterAll (signalsFor n ts)) ∧
      s.callsFor n ts = p.callsThrough (signalsFor n ts) := by
  induction ts generalizing s p with
  | nil => exact ⟨hp, rfl⟩
  | cons t rest ih =>
      have hn : n < s.sends.length := (List.getElem?_eq_some_iff.mp hp).1
      cases ht : t.signalFor? n with
      | none =>
          -- The turn signals another send or none, so this one is as it was.
          have hsignals := (Turn.signalFor?_eq_none_iff n t).mp ht
          have hkept : (s.after t).sends[n]? = some p := by
            rw [(after_extends s t).sends n hn hsignals, hp]
          rcases ih hkept with ⟨hsend, hcalls⟩
          rw [signalsFor, List.filterMap_cons_none ht, callsFor, eventsFor, hsignals]
          exact ⟨hsend, hcalls⟩
      | some signal =>
          rcases leaves_signal hp ht with ⟨hsends, -, hcalls⟩
          have hnext : (s.after t).sends[n]? = some (p.after signal) := by
            rw [hsends]
            exact List.getElem?_set_self hn
          have hsignals : t.signals n = true := by
            rw [← Bool.not_eq_false, ← Turn.signalFor?_eq_none_iff, ht]
            exact Option.some_ne_none signal
          rcases ih hnext with ⟨hsend, hrest⟩
          rw [signalsFor, List.filterMap_cons_some ht, callsFor, eventsFor, if_pos hsignals,
            producerCalls_append, hcalls]
          exact ⟨hsend, congrArg _ hrest⟩

/-- The state of a write, and the calls on its producer, from what its turn left. -/
theorem unsent_stateAfter {s : Session} {t : Turn} {report : Report}
    (h : s.Leaves t (.unsent report)) (later : List Turn) :
    s.stateAfter t later = report ∧ s.callsOf t later = producerCalls (s.eventsIn t) := by
  rcases h with ⟨hwrites⟩
  have hwrite : (s.after t).writes[s.writes.length]? = some (.unsent report) := by
    rw [hwrites]
    exact List.getElem?_concat_length
  have hkept := writes_afterAll later hwrite
  simp only [stateAfter, afterAll, stateOf, hkept, callsOf, eventsOf, hwrite, List.append_nil,
    and_self]

/-- For a send, its own signals in the later turns are taken too. -/
theorem sent_stateAfter {s : Session} {t : Turn} {p : Publication} (h : s.Leaves t (.sent p))
    (later : List Turn) :
    s.stateAfter t later = .publication (p.afterAll (signalsFor s.sends.length later)) ∧
      s.callsOf t later = producerCalls (s.eventsIn t) ++
        p.callsThrough (signalsFor s.sends.length later) := by
  rcases h with - | ⟨hwrites, hsends⟩
  have hwrite : (s.after t).writes[s.writes.length]? = some (.sent s.sends.length) := by
    rw [hwrites]
    exact List.getElem?_concat_length
  have hsend : (s.after t).sends[s.sends.length]? = some p := by
    rw [hsends]
    exact List.getElem?_concat_length
  have hkept := writes_afterAll later hwrite
  rcases send_afterAll later hsend with ⟨hlater, hcalls⟩
  rw [callsFor] at hcalls
  simp only [stateAfter, afterAll, stateOf, hkept, hlater, callsOf, eventsOf, hwrite,
    producerCalls_append, hcalls, Option.map_some, Option.getD_some, and_self]

/-! ### Two runs -/

/-- The signals in later turns for the send of the write that a turn asks for, in order. A write
    that led to no send has none. -/
def ownSignals (s : Session) (t : Turn) (later : List Turn) : List Signal :=
  match (s.after t).writes[s.writes.length]? with
  | some (.sent n) => signalsFor n later
  | _ => []

/-- The client answers the calls of two turns that ask for a write in the same way: the making of a
    producer, and the send of whatever record is handed over. How it answers to closing a producer
    is left open. -/
structure AnsweredAlike (s s' : Session) (t t' : Turn) : Prop where
  /-- Making the producer is answered alike. -/
  create : (Broker.producer.create (s.brokerIn t)).1 = (Broker.producer.create (s'.brokerIn t')).1
  /-- The send is answered alike. -/
  send : ∀ record, .send record ∈ s.eventsIn t →
    (Broker.producer.send record (s.brokerIn t)).1 =
      (Broker.producer.send record (s'.brokerIn t')).1

/-- Making a producer leaves the broker as it is. -/
theorem create_world (b : Broker) : (Broker.producer.create b).2 = b := by
  simp only [Broker.producer, Broker.answering]
  cases Entries.get? Call.producerNew b.faults <;> rfl

/-- No turn changes how records are written. -/
theorem writer_after (s : Session) (t : Turn) : (s.after t).writer = s.writer := by
  -- One case for each kind of turn: what it puts into the session are sends and writes.
  have hwriter : Dialogue.Always (fun out : Report × Session => out.2.writer = s.writer)
      (s.act t.action) := by
    cases t.action with
    | read q => exact Dialogue.Always.bind_any fun _ => Dialogue.Always.pure rfl
    | readFor form =>
        simp only [act]
        cases (ReadRequest.check form).toExcept with
        | ok r => exact Dialogue.Always.bind_any fun _ => Dialogue.Always.pure rfl
        | error issues => exact Dialogue.Always.pure rfl
    | write topic form =>
        simp only [act]
        cases (WriteRequest.check form).toExcept with
        | ok r =>
            refine Dialogue.Always.bind_any fun result => ?_
            cases result with
            | ok p =>
                refine Dialogue.Always.pure ?_
                simp only [afterPublication, withSend]
                split_ifs <;> rfl
            | error f => exact Dialogue.Always.pure rfl
        | error issues => exact Dialogue.Always.pure rfl
    | signal send signal write =>
        refine Dialogue.Always.bind (P := fun after => after.writer = s.writer) ?_
          fun after hafter => Dialogue.Always.pure hafter
        simp only [Session.signal]
        cases s.sends[send]? with
        | none => exact Dialogue.Always.pure rfl
        | some p => exact Dialogue.Always.bind_any fun _ => Dialogue.Always.pure rfl
    | look write => exact Dialogue.Always.pure rfl
    | request r =>
        refine Dialogue.Always.bind (P := fun ready => ready.writer = s.writer) ?_
          fun ready hready => ?_
        · simp only [serve]
          split_ifs
          · exact Dialogue.Always.pure rfl
          · exact Dialogue.Always.bind_any fun _ => Dialogue.Always.pure rfl
        · refine Dialogue.Always.bind_any fun reply => Dialogue.Always.pure ?_
          cases reply.publication with
          | none => exact hready
          | some p =>
              simp only [withSend]
              split_ifs <;> exact hready
  exact hwriter ⟨s.brokerIn t, []⟩

/-- Nor does any number of turns. -/
theorem writer_afterAll (s : Session) (ts : List Turn) : (s.afterAll ts).writer = s.writer := by
  induction ts generalizing s with
  | nil => rfl
  | cons t rest ih => exact (ih (s.after t)).trans (writer_after s t)

/-- The number of a send is that of the sends before it, and a write that led to none has no
    signals. -/
theorem ownSignals_eq {s : Session} {t : Turn} {left : Begun} (h : s.Leaves t left)
    (later : List Turn) :
    s.ownSignals t later = match left with
      | .sent _ => signalsFor s.sends.length later
      | .unsent _ => [] := by
  cases h with
  | unsent hwrites => rw [ownSignals, hwrites, List.getElem?_concat_length]
  | sent hwrites hsends => rw [ownSignals, hwrites, List.getElem?_concat_length]

/-- What a write comes to, after any later turns, depends on nothing but the writer, what the write
    asks for, the answers to its own calls, and its own signals. -/
theorem stateAfter_congr {s s' : Session} (hwriter : s.writer = s'.writer) {t t' : Turn}
    {topic : String} {form : Json.Members} (haction : t.action = .write topic form)
    (haction' : t'.action = .write topic form) (hanswers : AnsweredAlike s s' t t')
    {later later' : List Turn} (hsignals : s.ownSignals t later = s'.ownSignals t' later') :
    s.stateAfter t later = s'.stateAfter t' later' ∧
      s.callsOf t later = s'.callsOf t' later' := by
  rcases begins (s := s) haction with ⟨hleaves, hcalls⟩
  rcases begins (s := s') haction' with ⟨hleaves', hcalls'⟩
  -- The record that is handed over is the same event in both turns.
  have hsend : ∀ record,
      .send record ∈ (s.writer.begun Broker.producer topic form (s.brokerIn t)).2 →
        (Broker.producer.send record (Broker.producer.create (s.brokerIn t)).2).1 =
          (Broker.producer.send record (Broker.producer.create (s'.brokerIn t')).2).1 := by
    intro record hrecord
    rw [← hcalls] at hrecord
    rw [create_world, create_world]
    exact hanswers.send record (List.mem_filter.mp hrecord).1
  rw [← hwriter, ← s.writer.begun_congr topic form hanswers.create hsend] at hleaves' hcalls'
  -- Both turns leave the same, and from here on only the own signals count.
  generalize s.writer.begun Broker.producer topic form (s.brokerIn t) = begun at *
  rcases begun with ⟨left, calls⟩
  rw [ownSignals_eq hleaves, ownSignals_eq hleaves'] at hsignals
  cases left with
  | unsent report =>
      rcases unsent_stateAfter hleaves later with ⟨hstate, hall⟩
      rcases unsent_stateAfter hleaves' later' with ⟨hstate', hall'⟩
      rw [hstate, hstate', hall, hall', hcalls, hcalls']
      exact ⟨rfl, rfl⟩
  | sent p =>
      rcases sent_stateAfter hleaves later with ⟨hstate, hall⟩
      rcases sent_stateAfter hleaves' later' with ⟨hstate', hall'⟩
      dsimp only at hsignals
      rw [hstate, hstate', hall, hall', hcalls, hcalls', hsignals]
      exact ⟨rfl, rfl⟩

/-- Whether a turn brings no signal for the send of the write that another turn asked for. -/
def Foreign (s : Session) (t u : Turn) : Prop :=
  ∀ n, (s.after t).writes[s.writes.length]? = some (.sent n) → u.signals n = false

/-- A foreign turn adds no signal to those of the write. -/
theorem ownSignals_foreign {s : Session} {t u : Turn} (h : s.Foreign t u) (later : List Turn) :
    s.ownSignals t (later ++ [u]) = s.ownSignals t later := by
  unfold ownSignals
  cases hwrite : (s.after t).writes[s.writes.length]? with
  | none => rfl
  | some w =>
      cases w with
      | unsent report => rfl
      | sent n =>
          have hu : u.signalFor? n = none := (Turn.signalFor?_eq_none_iff n u).mpr (h n hwrite)
          dsimp only
          rw [signalsFor, List.filterMap_append, List.filterMap_cons_none hu, List.filterMap_nil,
            List.append_nil]
          rfl

/-- Two signals of different sends in either order: the sends and the writes come to the same, and
    each signal calls its own producer in the same way. -/
theorem signals_commute {s : Session} {m n : Nat} (hne : m ≠ n) {p q : Publication}
    (hp : s.sends[m]? = some p) (hq : s.sends[n]? = some q) {u v : Turn} {a b : Signal}
    (hu : u.signalFor? m = some a) (hv : v.signalFor? n = some b) :
    ((s.after u).after v).sends = ((s.after v).after u).sends ∧
      ((s.after u).after v).writes = ((s.after v).after u).writes ∧
      producerCalls ((s.after v).eventsIn u) = producerCalls (s.eventsIn u) ∧
      producerCalls ((s.after u).eventsIn v) = producerCalls (s.eventsIn v) := by
  rcases leaves_signal hp hu with ⟨husends, huwrites, hucalls⟩
  rcases leaves_signal hq hv with ⟨hvsends, hvwrites, hvcalls⟩
  -- Each of the two sends is still as it was when the signal for it comes second.
  have hq' : (s.after u).sends[n]? = some q := by
    rw [husends, List.getElem?_set_ne hne, hq]
  have hp' : (s.after v).sends[m]? = some p := by
    rw [hvsends, List.getElem?_set_ne hne.symm, hp]
  rcases leaves_signal hq' hv with ⟨hvsends', hvwrites', hvcalls'⟩
  rcases leaves_signal hp' hu with ⟨husends', huwrites', hucalls'⟩
  refine ⟨?_, ?_, hucalls'.trans hucalls.symm, hvcalls'.trans hvcalls.symm⟩
  · rw [hvsends', husends', husends, hvsends, List.set_comm _ _ hne]
  · rw [hvwrites', huwrites', huwrites, hvwrites]

/-- Writes are isolated from each other.

    In two runs of a session, a write that is asked for alike, whose calls are answered alike, and
    for whose send the same signals come in the same order, ends in the same state after the same
    calls on its producer. Whatever a turn does that brings no signal for it, the write stays as it
    is and its producer is not called. A signal changes its own send, calls the producer of that
    send, and does nothing else. And the signals of two different sends commute. -/
theorem writes_isolated (s : Session) :
    (∀ before t later before' t' later' topic form, t.action = .write topic form →
      t'.action = .write topic form →
      AnsweredAlike (s.afterAll before) (s.afterAll before') t t' →
      (s.afterAll before).ownSignals t later = (s.afterAll before').ownSignals t' later' →
      (s.afterAll before).stateAfter t later = (s.afterAll before').stateAfter t' later' ∧
        (s.afterAll before).callsOf t later = (s.afterAll before').callsOf t' later') ∧
    (∀ t later u topic form, t.action = .write topic form → s.Foreign t u →
      s.stateAfter t (later ++ [u]) = s.stateAfter t later ∧
        s.callsOf t (later ++ [u]) = s.callsOf t later) ∧
    (∀ n p u signal, s.sends[n]? = some p → u.signalFor? n = some signal →
      (s.after u).sends = s.sends.set n (p.after signal) ∧ (s.after u).writes = s.writes ∧
        producerCalls (s.eventsIn u) = p.callsAt signal) ∧
    ∀ m n p q u v a b, m ≠ n → s.sends[m]? = some p → s.sends[n]? = some q →
      u.signalFor? m = some a → v.signalFor? n = some b →
      (∀ write, ((s.after u).after v).stateOf write = ((s.after v).after u).stateOf write) ∧
        producerCalls ((s.after v).eventsIn u) = producerCalls (s.eventsIn u) ∧
        producerCalls ((s.after u).eventsIn v) = producerCalls (s.eventsIn v) := by
  refine ⟨?_, ?_, ?_, ?_⟩
  · intro before t later before' t' later' topic form haction haction' hanswers hsignals
    -- The turns before, whatever they are, leave both sessions with one writer.
    have hwriter : (s.afterAll before).writer = (s.afterAll before').writer :=
      (writer_afterAll s before).trans (writer_afterAll s before').symm
    exact stateAfter_congr hwriter haction haction' hanswers hsignals
  · intro t later u topic form haction hforeign
    -- The same run with one more turn, which adds no signal of the write.
    exact stateAfter_congr rfl haction haction ⟨rfl, fun _ _ => rfl⟩
      (ownSignals_foreign hforeign later)
  · intro n p u signal hp hu
    exact leaves_signal hp hu
  · intro m n p q u v a b hne hp hq hu hv
    rcases signals_commute hne hp hq hu hv with ⟨hsends, hwrites, hucalls, hvcalls⟩
    refine ⟨fun write => ?_, hucalls, hvcalls⟩
    rw [stateOf, stateOf, hsends, hwrites]

/-- A turn that asks for another write. -/
def otherWrite : Turn :=
  ⟨.write "u" [("value", .str (.ofString "w"))], [], .later, none⟩

/-- A turn in which the send with a number is refused. -/
def refusal (send : Nat) : Turn :=
  ⟨.signal send (.refused ⟨.timeout, none⟩) 0, [], .later, none⟩

/-- A turn in which the send with a number is delivered, with the faults that calls raise then. -/
def delivery (send : Nat) (faults : List (Call × Fault)) : Turn :=
  ⟨.signal send (.delivered ⟨some 0, some 7, none⟩) 0, faults, .later, none⟩

/-- Turns after a write that came first: another write, and signals for both. -/
def afterFirst : List Turn :=
  [otherWrite, refusal 0, delivery 1 [], delivery 0 [(.producerClose, ⟨.timeout, none⟩)]]

/-- Turns after a write that came second: signals for the other one and then for it. -/
def afterSecond : List Turn :=
  [delivery 0 [], refusal 1, delivery 1 []]

/-- The write comes first or second, so its send has another number and the signals for the other
    write come after or before its own. Either way it is refused, and the delivery comes too
    late. -/
theorem writes_isolated_exchanged :
    AnsweredAlike sampleSession (sampleSession.afterAll [otherWrite]) sampleWrite sampleWrite ∧
      sampleSession.ownSignals sampleWrite afterFirst =
        (sampleSession.afterAll [otherWrite]).ownSignals sampleWrite afterSecond ∧
      sampleSession.stateAfter sampleWrite afterFirst =
        (sampleSession.afterAll [otherWrite]).stateAfter sampleWrite afterSecond ∧
      sampleSession.callsOf sampleWrite afterFirst =
        (sampleSession.afterAll [otherWrite]).callsOf sampleWrite afterSecond ∧
      (sampleSession.stateAfter sampleWrite afterFirst).outcome? =
        some (.failed (.sendFailed "t" ⟨.timeout, none⟩)) := by
  have hanswers : AnsweredAlike sampleSession (sampleSession.afterAll [otherWrite]) sampleWrite
      sampleWrite := ⟨rfl, fun _ _ => rfl⟩
  have hsignals : sampleSession.ownSignals sampleWrite afterFirst =
      (sampleSession.afterAll [otherWrite]).ownSignals sampleWrite afterSecond := by
    decide +kernel
  rcases (writes_isolated sampleSession).1 [] sampleWrite afterFirst [otherWrite] sampleWrite
    afterSecond _ _ rfl rfl hanswers hsignals with ⟨hstate, hcalls⟩
  exact ⟨hanswers, hsignals, hstate, hcalls, by decide +kernel⟩

end Session

end RecordGateway
