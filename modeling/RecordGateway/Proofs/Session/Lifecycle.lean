import Mathlib.Data.List.Basic
import Mathlib.Tactic.SplitIfs
import RecordGateway.Proofs.Publishing.Course
import RecordGateway.Session

/-!
# The Life of a Write

Signals come in any order, again and again, contradict each other and name sends of
other writes, or of none. What holds of a write through all of that is shown in two
steps.

The first is about publications alone. `Publication.Leads` relates a publication to
what became of it and to its steps meanwhile: a settled one is the same and made no step,
and a pending one, if it is settled now, was settled by closing its producer first. One
signal leads from a publication to the next, and leading is transitive, so this is the
invariant of every sequence of signals.

The second is about sessions. A turn changes the sends that it signals and no others,
and it never changes the send that a write refers to. So the invariant of the
publication of a write is carried through turns of all kinds. The events of a session
do not say to which write they belong. But a turn that signals a send calls no other
producer and settles no other publication, and this is how events are ascribed to a
write.

## Main definitions

* `Publication.Leads`: what became of a publication, by which steps.
* `Publication.Orderly`: closing comes first, and settling last.
* `Session.after`, `Session.afterAll`: the session after turns.
* `Session.eventsFor`, `Session.callsFor`: the events of a send, and the calls on its
  producer.
* `Session.eventsOf`, `Session.callsOf`: the events of a write, and the calls on its
  producer.
* `Session.Lifecycle`: what holds of a write after any later turns.

## Theorems

* `Publication.leads_after`: a signal leads from a publication to the next.
* `Session.act_extends`: a turn changes only the send that it signals.
* `Session.leads_eventsFor`: the invariant of a send through all turns.
* `Session.after_write`: the turn that asks for a write.
* `Session.write_lifecycle`: the life of every write.
-/

namespace RecordGateway

variable {σ α β : Type}

/-- Whatever the world and the events before, the answer of the dialogue satisfies
    `P`. -/
def Dialogue.Always (P : α → Prop) (x : Dialogue σ α) : Prop :=
  ∀ p, P (StateT.run x p).1

namespace Dialogue.Always

/-- An answer that is there is the only one. -/
theorem pure {P : α → Prop} {a : α} (h : P a) : Always P (Pure.pure a : Dialogue σ α) :=
  fun _ => h

/-- What holds of the first answer may be used for the second. -/
theorem bind {P : α → Prop} {Q : β → Prop} {x : Dialogue σ α} {f : α → Dialogue σ β}
    (hx : Always P x) (hf : ∀ a, P a → Always Q (f a)) : Always Q (x >>= f) := by
  intro p
  rw [StateT.run_bind]
  exact hf _ (hx p) _

/-- A dialogue whose answer does not matter may come first. -/
theorem bind_any {Q : β → Prop} {x : Dialogue σ α} {f : α → Dialogue σ β}
    (hf : ∀ a, Always Q (f a)) : Always Q (x >>= f) :=
  bind (P := fun _ => True) (fun _ => trivial) fun a _ => hf a

end Dialogue.Always

namespace Publication

/-- What became of a publication, and its steps meanwhile. A settled one stays as it is
    and makes no step. A pending one makes no step either unless it is settled in the end,
    and then its producer is closed first. -/
structure Leads (p : Publication) (taken : List Event) (p' : Publication) : Prop where
  /-- Nothing happens to a settled publication. -/
  settled : p.outcome.isSome → p' = p ∧ taken = []
  /-- A pending one makes exactly the steps that settle it. -/
  pending : p.outcome = none → taken = p.ended p'.outcome
  /-- The patience with closing stays the same. -/
  closeTimeout : p'.closeTimeout = p.closeTimeout

/-- A publication leads to itself without a step. -/
theorem Leads.refl (p : Publication) : Leads p [] p := by
  refine ⟨fun _ => ⟨rfl, rfl⟩, fun hp => ?_, rfl⟩
  rw [hp]
  rfl

/-- What leads on from a publication follows what led to it. -/
theorem Leads.trans {p p' p'' : Publication} {taken taken' : List Event}
    (h : Leads p taken p') (h' : Leads p' taken' p'') : Leads p (taken ++ taken') p'' := by
  refine ⟨fun hp => ?_, fun hp => ?_, h'.closeTimeout.trans h.closeTimeout⟩
  · rcases h.settled hp with ⟨rfl, rfl⟩
    exact h'.settled hp
  · rw [h.pending hp]
    -- The steps fall to the half in which the publication gets settled.
    cases hp' : p'.outcome with
    | some o =>
        rcases h'.settled (by rw [hp']; rfl) with ⟨rfl, rfl⟩
        rw [hp', List.append_nil]
    | none =>
        rw [h'.pending hp', ended, ended, ended, h.closeTimeout]
        rfl

/-- A signal leads from a publication to the one after it. -/
theorem leads_after (p : Publication) (signal : Signal) :
    Leads p (p.stepsAt signal) (p.after signal) := by
  refine ⟨fun hp => ?_, fun hp => ?_, rfl⟩
  · -- The outcome that is there stays, and no step is made for it.
    rcases Option.isSome_iff_exists.mp hp with ⟨o, ho⟩
    refine ⟨after_settled ho signal, ?_⟩
    simp only [stepsAt, ho, Option.isNone_some, Bool.false_eq_true, if_false]
  · simp only [stepsAt, after, hp, Option.isNone_none, if_true, Option.none_or]

/-- Whether events are in the order of a publication with an outcome, or with none yet:
    steps that neither close nor settle anything, and then, if there is an outcome, the
    close and the settlement. -/
def Orderly (es : List Event) (outcome? : Option Outcome) : Prop :=
  ∃ (opening : List Event) (p : Publication),
    (closes opening = 0 ∧ settlements opening = []) ∧ steps es = opening ++ p.ended outcome?

namespace Orderly

variable {es : List Event} {outcome? : Option Outcome}

/-- A producer is closed once if there is an outcome, and not before. -/
theorem closes_eq (h : Orderly es outcome?) : closes es = if outcome?.isSome then 1 else 0 := by
  rcases h with ⟨opening, p, ⟨hopen, -⟩, hsteps⟩
  rw [← closes_steps, hsteps, closes_append, hopen]
  cases outcome? <;> rfl

/-- The outcome is settled once if there is one, and no other is. -/
theorem settlements_eq (h : Orderly es outcome?) : settlements es = outcome?.toList := by
  rcases h with ⟨opening, p, ⟨-, hopen⟩, hsteps⟩
  rw [← settlements_steps, hsteps, settlements_append, hopen]
  cases outcome? <;> rfl

/-- When a publication is settled, its producer has been closed before. -/
theorem closed_first (h : Orderly es outcome?) {before behind : List Event} {o : Outcome}
    (hes : es = before ++ .settled o :: behind) : closes before = 1 := by
  rcases h with ⟨opening, p, ⟨hopen, hunsettled⟩, hsteps⟩
  -- Nothing is settled in the opening, so the settlement is the one at the end.
  have hnot : ∀ o', Event.settled o' ∉ opening := by
    intro o' hmem
    have hmem' : o' ∈ settlements opening := List.mem_filterMap.mpr ⟨_, hmem, rfl⟩
    rw [hunsettled] at hmem'
    cases hmem'
  have hsplit : steps before ++ .settled o :: steps behind = opening ++ p.ended outcome? := by
    rw [← hsteps, hes, steps_append]
    rfl
  cases outcome? with
  | none =>
      rw [ended, Option.elim_none, List.append_nil] at hsplit
      exact absurd (hsplit ▸ List.mem_append_right _ List.mem_cons_self) (hnot o)
  | some o' =>
      -- There is one settlement only, so what stands before it is the opening and the close.
      have hlast : opening ++ p.ended (some o') =
          (opening ++ [.producerClose p.closeTimeout]) ++ .settled o' :: [] := by
        rw [List.append_assoc]
        rfl
      have hnot' : ∀ o', Event.settled o' ∉ opening ++ [.producerClose p.closeTimeout] := by
        intro o' hmem
        rcases List.mem_append.mp hmem with hmem | hmem
        · exact hnot o' hmem
        · cases List.mem_singleton.mp hmem
      rw [hlast] at hsplit
      have hbefore := ((List.append_cons_inj_of_notMem (hnot' o) List.not_mem_nil).mp
        hsplit.symm).1
      rw [← closes_steps, ← hbefore, closes_append, hopen]
      rfl

/-- The steps that lead on from a publication come after those that led to it. -/
theorem leads {p p' : Publication} {more : List Event} (h : Orderly es p.outcome)
    (hleads : p.Leads (steps more) p') : Orderly (es ++ more) p'.outcome := by
  cases hp : p.outcome with
  | some o =>
      rcases hleads.settled (by rw [hp]; rfl) with ⟨rfl, hnone⟩
      rcases h with ⟨opening, q, hopen, hsteps⟩
      exact ⟨opening, q, hopen, by rw [steps_append, hnone, List.append_nil, hsteps]⟩
  | none =>
      rcases h with ⟨opening, q, hopen, hsteps⟩
      refine ⟨opening, p, hopen, ?_⟩
      rw [steps_append, hsteps, hp, hleads.pending hp]
      exact congrArg (· ++ _) (List.append_nil opening)

end Orderly

end Publication

namespace Turn

/-- Whether a turn signals the end of the send with a number. -/
def signals (t : Turn) (n : Nat) : Bool :=
  match t.action with
  | .signal m _ _ => m == n
  | _ => false

end Turn

/-- The outcome of the publication that a report shows, if there is one. -/
def Report.outcome? : Report → Option Outcome
  | .publication p => p.outcome
  | _ => none

namespace Session

/-- The broker while a turn is taken. -/
def brokerIn (s : Session) (t : Turn) : Broker :=
  { s.broker.during t.faults t.acknowledgement with clock := t.clock.getD s.broker.clock }

/-- The session after a turn. -/
def after (s : Session) (t : Turn) : Session :=
  (s.perform t).2

/-- The events in a turn. -/
def eventsIn (s : Session) (t : Turn) : List Event :=
  (s.perform t).1.2

/-- The session after turns taken one after another. -/
def afterAll (s : Session) : List Turn → Session
  | [] => s
  | t :: rest => (s.after t).afterAll rest

/-- The events of the send with a number, while turns are taken: those in the turns that
    signal this send. -/
def eventsFor (n : Nat) (s : Session) : List Turn → List Event
  | [] => []
  | t :: rest => (if t.signals n then s.eventsIn t else []) ++ eventsFor n (s.after t) rest

/-- The calls on the producer of the send with a number, while turns are taken. -/
def callsFor (n : Nat) (s : Session) (ts : List Turn) : List Event :=
  producerCalls (s.eventsFor n ts)

/-- More turns go on from where the first ones have left the session. -/
theorem afterAll_append (s : Session) (ts more : List Turn) :
    s.afterAll (ts ++ more) = (s.afterAll ts).afterAll more := by
  induction ts generalizing s with
  | nil => rfl
  | cons t rest ih => exact ih (s.after t)

/-- And so do the events of a send. -/
theorem eventsFor_append (n : Nat) (s : Session) (ts more : List Turn) :
    s.eventsFor n (ts ++ more) = s.eventsFor n ts ++ (s.afterAll ts).eventsFor n more := by
  induction ts generalizing s with
  | nil => rfl
  | cons t rest ih =>
      rw [List.cons_append, eventsFor, ih (s.after t), eventsFor, List.append_assoc]
      rfl

/-- What a turn gives, from what its action comes to. -/
theorem perform_eq {s : Session} {t : Turn} {out : Report × Session} {b : Broker}
    {es : List Event} (h : Dialogue.Yields (s.act t.action) (s.brokerIn t) out b es) :
    s.eventsIn t = es ∧ s.after t = { out.2 with broker := b } := by
  have hrun := h.run_eq
  rw [brokerIn] at hrun
  simp only [eventsIn, after, perform, hrun, and_self]

/-- What a session keeps, apart from sends that are touched: the writes and the sends
    that it had. -/
structure Extends (s s' : Session) (touched : Nat → Bool) : Prop where
  /-- The writes are still there. -/
  writes : s.writes <+: s'.writes
  /-- No send is gone. -/
  sends_length : s.sends.length ≤ s'.sends.length
  /-- The sends that are not touched are as they were. -/
  sends : ∀ n < s.sends.length, touched n = false → s'.sends[n]? = s.sends[n]?

/-- A session keeps what it has. -/
theorem Extends.refl (s : Session) (touched : Nat → Bool) : Extends s s touched :=
  ⟨List.prefix_refl _, Nat.le_refl _, fun _ _ _ => rfl⟩

/-- What is kept twice is kept. -/
theorem Extends.trans {s₁ s₂ s₃ : Session} {touched : Nat → Bool} (h₁ : Extends s₁ s₂ touched)
    (h₂ : Extends s₂ s₃ touched) : Extends s₁ s₃ touched := by
  refine ⟨h₁.writes.trans h₂.writes, Nat.le_trans h₁.sends_length h₂.sends_length,
    fun n hn htouched => ?_⟩
  rw [h₂.sends n (Nat.lt_of_lt_of_le hn h₁.sends_length) htouched, h₁.sends n hn htouched]

/-- A new send is put behind those that there are. -/
theorem extends_withSend (s : Session) (p : Publication) (touched : Nat → Bool) :
    Extends s (s.withSend p) touched := by
  rw [withSend]
  split_ifs with htaken
  · refine ⟨List.prefix_refl _, ?_, fun n hn _ => List.getElem?_append_left hn⟩
    simp only [List.length_append, Nat.le_add_right]
  · exact Extends.refl s touched

/-- And so is a new write. -/
theorem extends_withWrite (s : Session) (w : Write) (touched : Nat → Bool) :
    Extends s (s.withWrite w) touched :=
  ⟨List.prefix_append _ _, Nat.le_refl _, fun _ _ _ => rfl⟩

/-- An action leaves alone all writes, and all sends but the one that it signals. -/
theorem act_extends (s : Session) (t : Turn) :
    Dialogue.Always (fun out : Report × Session => Extends s out.2 t.signals)
      (s.act t.action) := by
  rcases t with ⟨action, faults, acknowledgement, clock⟩
  -- One case for each action. Only writes and requests add to the session, and only a
  -- signal changes a send.
  cases action with
  | read q =>
      exact Dialogue.Always.bind_any fun _ => Dialogue.Always.pure (Extends.refl s _)
  | readFor form =>
      simp only [act]
      cases (ReadRequest.check form).toExcept with
      | ok r => exact Dialogue.Always.bind_any fun _ => Dialogue.Always.pure (Extends.refl s _)
      | error issues => exact Dialogue.Always.pure (Extends.refl s _)
  | write topic form =>
      simp only [act]
      cases (WriteRequest.check form).toExcept with
      | ok r =>
          refine Dialogue.Always.bind_any fun result => ?_
          cases result with
          | ok p =>
              refine Dialogue.Always.pure ?_
              simp only [afterPublication]
              split_ifs
              · exact (extends_withSend s p _).trans (extends_withWrite _ _ _)
              · exact extends_withWrite s _ _
          | error f => exact Dialogue.Always.pure (extends_withWrite s _ _)
      | error issues => exact Dialogue.Always.pure (extends_withWrite s _ _)
  | signal send signal write =>
      refine Dialogue.Always.bind (P := fun after => Extends s after
        (Turn.signals ⟨.signal send signal write, faults, acknowledgement, clock⟩)) ?_
        fun after hafter => Dialogue.Always.pure hafter
      simp only [Session.signal]
      cases hsend : s.sends[send]? with
      | none => exact Dialogue.Always.pure (Extends.refl s _)
      | some p =>
          -- Whatever the callback makes of the publication, the other sends are not set.
          refine Dialogue.Always.bind_any fun p' => Dialogue.Always.pure ?_
          refine ⟨List.prefix_refl _, ?_, fun n _ hn => ?_⟩
          · simp only [List.length_set, Nat.le_refl]
          · have hne : send ≠ n := by
              simpa only [Turn.signals, beq_eq_false_iff_ne] using hn
            exact List.getElem?_set_ne hne
  | look write => exact Dialogue.Always.pure (Extends.refl s _)
  | request r =>
      refine Dialogue.Always.bind (P := fun ready => Extends s ready
        (Turn.signals ⟨.request r, faults, acknowledgement, clock⟩)) ?_ fun ready hready => ?_
      · simp only [serve]
        split_ifs
        · exact Dialogue.Always.pure (Extends.refl s _)
        · exact Dialogue.Always.bind_any fun _ =>
            Dialogue.Always.pure ⟨List.prefix_refl _, Nat.le_refl _, fun _ _ _ => rfl⟩
      · refine Dialogue.Always.bind_any fun reply => Dialogue.Always.pure ?_
        cases reply.publication with
        | none => exact hready
        | some p => exact hready.trans (extends_withSend ready p _)

/-- A turn leaves alone what its action does. -/
theorem after_extends (s : Session) (t : Turn) : Extends s (s.after t) t.signals := by
  have h := act_extends s t ⟨s.brokerIn t, []⟩
  exact ⟨h.writes, h.sends_length, h.sends⟩

/-- The session in which a signal has come for a send. -/
def signalled (s : Session) (n : Nat) (p : Publication) (signal : Signal) : Session :=
  { s with sends := s.sends.set n (p.after signal) }

/-- A signal for a send that is there replaces its publication by the one after the
    signal. -/
theorem act_signal {s : Session} {n : Nat} {p : Publication} (hp : s.sends[n]? = some p)
    (signal : Signal) (write : Nat) (b : Broker) :
    ∃ b' es, Dialogue.Yields (s.act (.signal n signal write)) b
        ((s.signalled n p signal).stateOf write, s.signalled n p signal) b' es ∧
      steps es = p.stepsAt signal := by
  rcases Publication.receive_steps p signal Broker.producer.close b with ⟨b', es, hes, hsteps⟩
  refine ⟨b', (es ++ []) ++ [], ?_, by simpa only [List.append_nil] using hsteps⟩
  refine Dialogue.Yields.bind (a := s.signalled n p signal) ?_ (Dialogue.Yields.pure _ b')
  simp only [Session.signal, hp]
  exact hes.bind (Dialogue.Yields.pure _ b')

/-- A turn leads every send to what it is afterwards, by the steps of this turn if the send
    is signalled, and by none if it is not. -/
theorem leads_after_turn {s : Session} {n : Nat} {p : Publication} (hp : s.sends[n]? = some p)
    (t : Turn) :
    ∃ p', (s.after t).sends[n]? = some p' ∧
      p.Leads (steps (if t.signals n then s.eventsIn t else [])) p' := by
  have hn : n < s.sends.length := (List.getElem?_eq_some_iff.mp hp).1
  cases hsignals : t.signals n with
  | false =>
      refine ⟨p, ?_, Publication.Leads.refl p⟩
      rw [(after_extends s t).sends n hn hsignals, hp]
  | true =>
      -- Of all actions, only a signal for this very send is left.
      rw [Turn.signals] at hsignals
      split at hsignals
      case h_1 m signal write haction =>
        rw [beq_iff_eq] at hsignals
        subst hsignals
        rcases act_signal hp signal write (s.brokerIn t) with ⟨b, es, hes, hsteps⟩
        rw [← haction] at hes
        rcases perform_eq hes with ⟨hevents, hafter⟩
        refine ⟨p.after signal, ?_, ?_⟩
        · rw [hafter]
          exact List.getElem?_set_self hn
        · rw [if_pos rfl, hevents, hsteps]
          exact Publication.leads_after p signal
      case h_2 => cases hsignals

/-- The invariant of a send, by induction on the turns. -/
theorem leads_eventsFor {n : Nat} (ts : List Turn) {s : Session} {p : Publication}
    (hp : s.sends[n]? = some p) :
    ∃ p', (s.afterAll ts).sends[n]? = some p' ∧ p.Leads (steps (s.eventsFor n ts)) p' := by
  induction ts generalizing s p with
  | nil => exact ⟨p, hp, Publication.Leads.refl p⟩
  | cons t rest ih =>
      rcases leads_after_turn hp t with ⟨p₁, hp₁, hfirst⟩
      rcases ih hp₁ with ⟨p', hp', hrest⟩
      rw [eventsFor, steps_append]
      exact ⟨p', hp', hfirst.trans hrest⟩

/-- A write keeps referring to what it first referred to. -/
theorem writes_afterAll (ts : List Turn) {s : Session} {i : Nat} {w : Write}
    (hw : s.writes[i]? = some w) : (s.afterAll ts).writes[i]? = some w := by
  induction ts generalizing s with
  | nil => exact hw
  | cons t rest ih =>
      -- Writes are only added at the end, so the number stays that of this write.
      rcases (after_extends s t).writes with ⟨more, hmore⟩
      refine ih ?_
      rw [← hmore, List.getElem?_append_left (List.getElem?_eq_some_iff.mp hw).1]
      exact hw

/-- Whether a turn made a producer: it asked for one, and there was no fault. -/
def Created (s : Session) (t : Turn) : Prop :=
  .producerNew ∈ s.eventsIn t ∧ Entries.get? .producerNew t.faults = none

/-- Whether a turn sent a record and heard nothing: it handed over the record, the send
    did not raise, and no signal came. -/
def Silent (s : Session) (t : Turn) : Prop :=
  (∃ record, .send record ∈ s.eventsIn t) ∧ Entries.get? .send t.faults = none ∧
    t.acknowledgement = .later

/-- What a write comes to without a send under way: with a producer it is settled, and in
    good order, and without one nothing was closed. -/
structure WrittenUnsent (s : Session) (t : Turn) (report : Report) : Prop where
  writes : (s.after t).writes = s.writes ++ [.unsent report]
  created : s.Created t →
    report.outcome?.isSome ∧ Publication.Orderly (s.eventsIn t) report.outcome?
  uncreated : ¬ s.Created t → closes (s.eventsIn t) = 0
  settled : settlements (s.eventsIn t) = report.outcome?.toList
  heard : ¬ s.Silent t

/-- What a write comes to with a send under way. -/
structure WrittenSent (s : Session) (t : Turn) (p : Publication) : Prop where
  writes : (s.after t).writes = s.writes ++ [.sent s.sends.length]
  sends : (s.after t).sends = s.sends ++ [p]
  created : s.Created t
  orderly : Publication.Orderly (s.eventsIn t) p.outcome
  pending : s.Silent t → p.outcome = none

end Session

namespace Writer

/-- A publication knows whether the producer took on its record. -/
theorem started_handedOver (w : Writer) (p : Producer σ) (topic : String)
    (request : WriteRequest) (record : Except LooseText.Unencodable Outgoing) (s : σ) :
    (w.started p topic request record s).handedOver = takesOn p record s := by
  rw [started]
  cases promptSignal p record s <;> rfl

/-- With a producer, all steps are those that lead to the publication that was started. -/
theorem orderly_started {w : Writer} {p : Producer σ} {topic : String} {request : WriteRequest}
    {record : Except LooseText.Unencodable Outgoing} {s : σ} {es : List Event}
    (h : steps es = .producerNew :: w.sendSteps p topic request record s) :
    Publication.Orderly es (w.started p topic request record s).outcome := by
  -- Making a producer and handing over a record neither close nor settle anything.
  refine ⟨.producerNew :: (record.toOption.map Event.send).toList, w.fresh topic request false,
    by cases record <;> exact ⟨rfl, rfl⟩, ?_⟩
  rw [h, sendSteps, List.cons_append, started]
  cases promptSignal p record s <;> rfl

/-- What a producer does not take on is settled at once. -/
theorem started_settled (w : Writer) {p : Producer σ} (topic : String) (request : WriteRequest)
    {record : Except LooseText.Unencodable Outgoing} {s : σ}
    (htaken : takesOn p record s = false) :
    (w.started p topic request record s).outcome.isSome := by
  rw [started]
  cases record with
  | error e => rfl
  | ok r =>
      simp only [takesOn, promptSignal] at htaken ⊢
      cases hsend : (p.send r s).1 with
      | error f => rfl
      | ok signal? =>
          rw [hsend] at htaken
          cases htaken

/-- A record that was handed over had an encoded form. -/
theorem encoded_of_send_mem {w : Writer} {p : Producer σ} {topic : String}
    {request : WriteRequest} {record : Except LooseText.Unencodable Outgoing} {s : σ}
    {sent : Outgoing} (hsent : .send sent ∈ w.sendSteps p topic request record s) :
    ∃ r, record = .ok r := by
  cases record with
  | ok r => exact ⟨r, rfl⟩
  | error e =>
      simp only [sendSteps, promptSignal, Option.elim, Publication.stepsAt, fresh,
        Publication.ended, Publication.ending?] at hsent
      simp [Except.toOption] at hsent

end Writer

namespace Session

/-- The broker says nothing about a send if it is told to wait and has no fault. -/
theorem promptSignal_eq_none {s : Session} {t : Turn} {record : Outgoing}
    (hfault : Entries.get? .send t.faults = none) (hlater : t.acknowledgement = .later) :
    Writer.promptSignal Broker.producer (.ok record) (s.brokerIn t) = none := by
  have hfault' : Entries.get? Call.send (s.brokerIn t).faults = none := hfault
  have hlater' : (s.brokerIn t).acknowledgement = .later := hlater
  simp only [Writer.promptSignal, Broker.producer, Broker.answering, hfault',
    Broker.acknowledge, hlater']

/-- A publication without a send is kept with the write itself. -/
theorem afterPublication_unsent {p : Publication} (hp : p.handedOver = false) (s : Session) :
    (s.afterPublication p).writes = s.writes ++ [.unsent (.publication p)] := by
  simp only [afterPublication, hp, Bool.false_eq_true, if_false, withWrite]

/-- One with a send is kept among the sends, and the write refers to it. -/
theorem afterPublication_sent {p : Publication} (hp : p.handedOver = true) (s : Session) :
    (s.afterPublication p).writes = s.writes ++ [.sent s.sends.length] ∧
      (s.afterPublication p).sends = s.sends ++ [p] := by
  simp only [afterPublication, hp, if_true, withWrite, withSend, and_self]

/-- The session after a write whose publishing had a result. -/
def afterResult (s : Session) : Except Failure Publication → Session
  | .ok p => s.afterPublication p
  | .error f => s.withWrite (.unsent (.failure f))

/-- What a turn comes to that writes a record for a well-formed request. -/
theorem perform_write {s : Session} {t : Turn} {topic : String} {form : Json.Members}
    (haction : t.action = .write topic form) {r : WriteRequest}
    (hform : (WriteRequest.check form).toExcept = .ok r) {result : Except Failure Publication}
    {b : Broker} {es : List Event}
    (h : Exchange.Yields (s.writer.publish Broker.producer topic r) (s.brokerIn t) result b es) :
    s.eventsIn t = es ∧ (s.after t).writes = (s.afterResult result).writes ∧
      (s.after t).sends = (s.afterResult result).sends := by
  have hact : ∃ report, Dialogue.Yields (s.act t.action) (s.brokerIn t)
      (report, s.afterResult result) b (es ++ []) := by
    rw [haction]
    simp only [act, hform, Session.write]
    cases result with
    | ok p => exact ⟨_, Dialogue.Yields.bind h (Dialogue.Yields.pure _ b)⟩
    | error f => exact ⟨_, Dialogue.Yields.bind h (Dialogue.Yields.pure _ b)⟩
  rcases hact with ⟨report, hact⟩
  rw [List.append_nil] at hact
  rcases perform_eq hact with ⟨hevents, hafter⟩
  rw [hafter]
  exact ⟨hevents, rfl, rfl⟩

/-- A turn without a producer leaves a write unsent. -/
theorem writtenUnsent_of_uncreated {s : Session} {t : Turn} {report : Report}
    (hwrites : (s.after t).writes = s.writes ++ [.unsent report])
    (hcreated : ¬ s.Created t) (hcalls : producerCalls (s.eventsIn t) ⊆ [.producerNew])
    (hsettled : settlements (s.eventsIn t) = report.outcome?.toList) :
    WrittenUnsent s t report := by
  refine ⟨hwrites, fun h => absurd h hcreated, fun _ => ?_, hsettled, fun hsilent => ?_⟩
  · rw [← closes_producerCalls, closes, List.countP_eq_zero]
    intro e he
    rw [List.mem_singleton.mp (hcalls he)]
    decide
  · rcases hsilent with ⟨⟨record, hrecord⟩, -, -⟩
    cases List.mem_singleton.mp (hcalls (List.mem_filter.mpr ⟨hrecord, rfl⟩))

/-- The turn of a write for which a producer was made. -/
theorem after_write_created {s : Session} {t : Turn} {topic : String} {form : Json.Members}
    (haction : t.action = .write topic form) {r : WriteRequest}
    (hform : (WriteRequest.check form).toExcept = .ok r) {timestamp : Option Instant}
    {headers : List (LooseText × Bytes)} (hchecks : s.writer.checks r = .ok (timestamp, headers))
    (hfault : Entries.get? Call.producerNew t.faults = none) :
    (∃ report, WrittenUnsent s t report) ∨ ∃ p, WrittenSent s t p := by
  have hcreate : Broker.producer.create (s.brokerIn t) = (.ok (), s.brokerIn t) := by
    have hfault' : Entries.get? Call.producerNew (s.brokerIn t).faults = none := hfault
    simp only [Broker.producer, Broker.answering, hfault']
  rcases Writer.publish_steps hchecks hcreate topic with ⟨b, es, hes, hsteps⟩
  rcases perform_write haction hform hes with ⟨hevents, hafter⟩
  generalize hrecord : Writer.outgoing topic r timestamp headers = record at hes hsteps hafter
  have horderly := Writer.orderly_started hsteps
  rw [← hevents] at horderly hsteps
  have hcreated : s.Created t :=
    ⟨(List.mem_filter.mp (hsteps ▸ List.mem_cons_self)).1, hfault⟩
  -- A turn that heard nothing sent the record, and the broker was told to wait.
  have hsilent : s.Silent t →
      Writer.promptSignal Broker.producer record (s.brokerIn t) = none := by
    rintro ⟨⟨sent, hsent⟩, hnofault, hlater⟩
    have hmem : .send sent ∈ steps (s.eventsIn t) := List.mem_filter.mpr ⟨hsent, rfl⟩
    rw [hsteps, List.mem_cons] at hmem
    rcases hmem with heq | hmem
    · cases heq
    · rcases Writer.encoded_of_send_mem hmem with ⟨r', rfl⟩
      exact promptSignal_eq_none hnofault hlater
  have hhanded := Writer.started_handedOver s.writer Broker.producer topic r record (s.brokerIn t)
  -- Only a record that was taken on becomes a send; any other is settled by now.
  cases htaken : Writer.takesOn Broker.producer record (s.brokerIn t) with
  | false =>
      rw [htaken] at hhanded
      have hsettled := Writer.started_settled s.writer topic r htaken
      refine Or.inl ⟨.publication (s.writer.started Broker.producer topic r record (s.brokerIn t)),
        ?_, fun _ => ⟨hsettled, horderly⟩, fun hnot => absurd hcreated hnot,
        horderly.settlements_eq, fun hquiet => ?_⟩
      · exact hafter.1.trans (afterPublication_unsent hhanded s)
      · rw [Writer.takesOn_of_silent (hsilent hquiet)] at htaken
        cases htaken
  | true =>
      rw [htaken] at hhanded
      rcases afterPublication_sent hhanded s with ⟨hwrites, hsends⟩
      refine Or.inr ⟨s.writer.started Broker.producer topic r record (s.brokerIn t),
        hafter.1.trans hwrites, hafter.2.trans hsends, hcreated, horderly, fun hquiet => ?_⟩
      rw [Writer.started, hsilent hquiet]
      rfl

/-- The turn of a write for which a producer could not be made. Asking for it is the only
    call, whatever the fault leads to. -/
theorem after_write_uncreated {s : Session} {t : Turn} {topic : String} {form : Json.Members}
    (haction : t.action = .write topic form) {r : WriteRequest}
    (hform : (WriteRequest.check form).toExcept = .ok r) {timestamp : Option Instant}
    {headers : List (LooseText × Bytes)} (hchecks : s.writer.checks r = .ok (timestamp, headers))
    {f : Fault} (hfault : Entries.get? Call.producerNew t.faults = some f) :
    ∃ report, WrittenUnsent s t report := by
  have hcreate : Broker.producer.create (s.brokerIn t) = (.error f, s.brokerIn t) := by
    have hfault' : Entries.get? Call.producerNew (s.brokerIn t).faults = some f := hfault
    simp only [Broker.producer, Broker.answering, hfault']
  have hcreated : ¬ s.Created t := by
    rw [Created, hfault]
    simp only [reduceCtorEq, and_false, not_false_eq_true]
  have hcalls := Writer.producerCalls_uncreated topic f
  have hpublish := Writer.publish_uncreated hchecks hcreate topic
  by_cases hbroker : f.kind.isBrokerError
  · rw [if_pos hbroker] at hpublish
    rcases perform_write haction hform hpublish with ⟨hevents, hwrites, -⟩
    rw [← hevents] at hcalls
    refine ⟨_, writtenUnsent_of_uncreated (hwrites.trans (afterPublication_unsent rfl s)) hcreated
      (hcalls ▸ List.Subset.refl _) ?_⟩
    rw [hevents, Writer.uncreatedEvents, if_pos hbroker]
    rfl
  · rw [if_neg hbroker] at hpublish
    rcases perform_write haction hform hpublish with ⟨hevents, hwrites, -⟩
    rw [← hevents] at hcalls
    refine ⟨_, writtenUnsent_of_uncreated hwrites hcreated (hcalls ▸ List.Subset.refl _) ?_⟩
    rw [hevents, Writer.uncreatedEvents, if_neg hbroker]
    rfl

/-- A turn without events leaves a write unsent, and not settled. -/
theorem writtenUnsent_of_quiet {s : Session} {t : Turn} {report : Report}
    (hwrites : (s.after t).writes = s.writes ++ [.unsent report]) (hevents : s.eventsIn t = [])
    (hreport : report.outcome? = none) : WrittenUnsent s t report := by
  refine writtenUnsent_of_uncreated hwrites ?_ ?_ ?_
  · rw [Created, hevents]
    simp only [List.not_mem_nil, false_and, not_false_eq_true]
  · rw [hevents]
    exact List.nil_subset _
  · rw [hevents, hreport]
    rfl

/-- The turn that asks for a write leaves it unsent or sent. -/
theorem after_write {s : Session} {t : Turn} {topic : String} {form : Json.Members}
    (haction : t.action = .write topic form) :
    (∃ report, WrittenUnsent s t report) ∨ ∃ p, WrittenSent s t p := by
  cases hform : (WriteRequest.check form).toExcept with
  | error issues =>
      have hact : Dialogue.Yields (s.act t.action) (s.brokerIn t)
          (.malformed issues, s.withWrite (.unsent (.malformed issues))) (s.brokerIn t) [] := by
        rw [haction]
        simp only [act, hform]
        exact Dialogue.Yields.pure _ _
      rcases perform_eq hact with ⟨hevents, hafter⟩
      refine Or.inl ⟨.malformed issues, writtenUnsent_of_quiet ?_ hevents rfl⟩
      rw [hafter]
      rfl
  | ok r =>
      cases hchecks : s.writer.checks r with
      | error e =>
          rcases perform_write haction hform (Writer.publish_unchecked hchecks Broker.producer
            topic (s.brokerIn t)) with ⟨hevents, hwrites, -⟩
          exact Or.inl ⟨.failure e, writtenUnsent_of_quiet hwrites hevents rfl⟩
      | ok checked =>
          rcases checked with ⟨timestamp, headers⟩
          cases hfault : Entries.get? Call.producerNew t.faults with
          | none => exact after_write_created haction hform hchecks hfault
          | some f => exact Or.inl (after_write_uncreated haction hform hchecks hfault)

/-- The events of the write that a turn asks for: those in that turn, and those for its
    send in later turns. -/
def eventsOf (s : Session) (t : Turn) (later : List Turn) : List Event :=
  s.eventsIn t ++
    match (s.after t).writes[s.writes.length]? with
    | some (.sent n) => (s.after t).eventsFor n later
    | _ => []

/-- The calls on the producer of the write that a turn asks for. -/
def callsOf (s : Session) (t : Turn) (later : List Turn) : List Event :=
  producerCalls (s.eventsOf t later)

/-- The state, after later turns, of the write that a turn asks for. -/
def stateAfter (s : Session) (t : Turn) (later : List Turn) : Report :=
  (s.afterAll (t :: later)).stateOf s.writes.length

/-- What holds of the write that a turn asks for, after any later turns. -/
structure Lifecycle (s : Session) (t : Turn) (later : List Turn) : Prop where
  /-- Its producer is closed at most once. -/
  closed_once : closes (s.callsOf t later) ≤ 1
  /-- It is settled at most once, and what it was settled with is the outcome that it has. -/
  settled_once : settlements (s.eventsOf t later) = (s.stateAfter t later).outcome?.toList
  /-- If it has a producer, that producer was closed before the write was settled. -/
  closed_first : s.Created t → ∀ before outcome behind,
    s.eventsOf t later = before ++ .settled outcome :: behind → closes before = 1
  /-- If it has a producer, the write is settled exactly if that producer was closed. -/
  settled_iff_closed : s.Created t →
    ((s.stateAfter t later).outcome?.isSome ↔ closes (s.callsOf t later) = 1)
  /-- Without a producer nothing is closed. -/
  closed_created : closes (s.callsOf t later) = 1 → s.Created t
  /-- Once it is settled, no turn changes it, calls its producer again or settles it
      again. -/
  settled_final : (s.stateAfter t later).outcome?.isSome → ∀ more,
    s.stateAfter t (later ++ more) = s.stateAfter t later ∧
      steps (s.eventsOf t (later ++ more)) = steps (s.eventsOf t later)
  /-- While its send did not raise and no signal came for it, the write is pending and
      its producer open. -/
  silent_pending : s.Silent t → ∃ n, (s.after t).writes[s.writes.length]? = some (.sent n) ∧
    ((∀ u ∈ later, u.signals n = false) →
      (∃ p, s.stateAfter t later = .publication p ∧ p.outcome = none) ∧
        closes (s.callsOf t later) = 0)

/-- An unsent write has its final state from the beginning. -/
theorem WrittenUnsent.lifecycle {s : Session} {t : Turn} {report : Report}
    (h : WrittenUnsent s t report) (later : List Turn) : Lifecycle s t later := by
  have hwrite : (s.after t).writes[s.writes.length]? = some (.unsent report) := by
    rw [h.writes]
    exact List.getElem?_concat_length
  have hstate (ts : List Turn) : s.stateAfter t ts = report := by
    have hkept := writes_afterAll ts hwrite
    simp only [stateAfter, afterAll, stateOf, hkept]
  have hevents (ts : List Turn) : s.eventsOf t ts = s.eventsIn t := by
    simp only [eventsOf, hwrite, List.append_nil]
  have hcloses : closes (s.callsOf t later) = closes (s.eventsIn t) := by
    rw [callsOf, hevents, closes_producerCalls]
  have hclosed (hcreated : s.Created t) : closes (s.eventsIn t) = 1 := by
    rcases h.created hcreated with ⟨hsettled, horderly⟩
    rw [horderly.closes_eq, if_pos hsettled]
  refine ⟨?_, ?_, fun hcreated before o behind hes => ?_, fun hcreated => ?_, fun hone => ?_,
    fun _ more => ?_, fun hsilent => absurd hsilent h.heard⟩
  · rw [hcloses]
    by_cases hcreated : s.Created t
    · exact Nat.le_of_eq (hclosed hcreated)
    · rw [h.uncreated hcreated]
      exact Nat.zero_le 1
  · rw [hevents, hstate, h.settled]
  · rw [hevents] at hes
    exact (h.created hcreated).2.closed_first hes
  · rw [hcloses, hstate]
    exact ⟨fun _ => hclosed hcreated, fun _ => (h.created hcreated).1⟩
  · refine Classical.byContradiction fun hnot => ?_
    rw [hcloses, h.uncreated hnot] at hone
    cases hone
  · rw [hstate, hstate, hevents, hevents]
    exact ⟨rfl, rfl⟩

/-- Turns that do not signal a send bring no events of it. -/
theorem eventsFor_unsignalled {n : Nat} {ts : List Turn} (h : ∀ u ∈ ts, u.signals n = false)
    (s : Session) : s.eventsFor n ts = [] := by
  induction ts generalizing s with
  | nil => rfl
  | cons t rest ih =>
      rw [eventsFor, h t List.mem_cons_self, ih (fun u hu => h u (List.mem_cons_of_mem t hu))]
      rfl

/-- Turns that do not signal a send leave its publication as it is. -/
theorem sends_unsignalled {n : Nat} {ts : List Turn} (h : ∀ u ∈ ts, u.signals n = false)
    {s : Session} (hn : n < s.sends.length) : (s.afterAll ts).sends[n]? = s.sends[n]? := by
  induction ts generalizing s with
  | nil => rfl
  | cons t rest ih =>
      have hext := after_extends s t
      rw [afterAll, ih (fun u hu => h u (List.mem_cons_of_mem t hu))
        (Nat.lt_of_lt_of_le hn hext.sends_length)]
      exact hext.sends n hn (h t List.mem_cons_self)

/-- A sent write is what became of its publication. -/
theorem WrittenSent.lifecycle {s : Session} {t : Turn} {p : Publication}
    (h : WrittenSent s t p) (later : List Turn) : Lifecycle s t later := by
  have hwrite : (s.after t).writes[s.writes.length]? = some (.sent s.sends.length) := by
    rw [h.writes]
    exact List.getElem?_concat_length
  have hsend : (s.after t).sends[s.sends.length]? = some p := by
    rw [h.sends]
    exact List.getElem?_concat_length
  have hstate {ts : List Turn} {q : Publication}
      (hq : ((s.after t).afterAll ts).sends[s.sends.length]? = some q) :
      s.stateAfter t ts = .publication q := by
    have hkept := writes_afterAll ts hwrite
    simp only [stateAfter, afterAll, stateOf, hkept, hq, Option.map_some, Option.getD_some]
  have hevents (ts : List Turn) : s.eventsOf t ts =
      s.eventsIn t ++ (s.after t).eventsFor s.sends.length ts := by
    simp only [eventsOf, hwrite]
  rcases leads_eventsFor later hsend with ⟨p', hp', hleads⟩
  -- The turn leads to the publication, and the later ones lead on to what it is now.
  have horderly : Publication.Orderly (s.eventsOf t later) p'.outcome := by
    rw [hevents]
    exact h.orderly.leads hleads
  have hcloses : closes (s.callsOf t later) = if p'.outcome.isSome then 1 else 0 := by
    rw [callsOf, closes_producerCalls, horderly.closes_eq]
  refine ⟨?_, ?_, fun _ before o behind hes => horderly.closed_first hes, fun _ => ?_,
    fun _ => h.created, fun hsettled more => ?_, fun hsilent => ?_⟩
  · rw [hcloses]
    split_ifs <;> omega
  · rw [horderly.settlements_eq, hstate hp']
    rfl
  · rw [hcloses, hstate hp', Report.outcome?]
    split_ifs with hsettled
    · exact ⟨fun _ => rfl, fun _ => hsettled⟩
    · exact ⟨fun h => absurd h hsettled, fun h => absurd h (by decide)⟩
  · -- A settled publication leads to itself without a step, and so it stays.
    rw [hstate hp'] at hsettled
    rcases leads_eventsFor more hp' with ⟨p'', hp'', hmore⟩
    rcases hmore.settled hsettled with ⟨rfl, hnone⟩
    rw [← afterAll_append] at hp''
    refine ⟨(hstate hp'').trans (hstate hp').symm, ?_⟩
    rw [hevents, hevents, eventsFor_append, ← List.append_assoc, steps_append, hnone,
      List.append_nil]
  · -- The turns do not signal this send, so it is what the write has left.
    have hpending := h.pending hsilent
    refine ⟨s.sends.length, hwrite, fun hquiet => ⟨⟨p, hstate ?_, hpending⟩, ?_⟩⟩
    · rw [sends_unsignalled hquiet (List.getElem?_eq_some_iff.mp hsend).1, hsend]
    · rw [callsOf, hevents, eventsFor_unsignalled hquiet, List.append_nil, closes_producerCalls,
        h.orderly.closes_eq, hpending]
      rfl

/-- Every write of every session has this life, whatever turns come later: signals for
    any sends in any order, with any faults, other writes, reads and requests. -/
theorem write_lifecycle {s : Session} {t : Turn} {topic : String} {form : Json.Members}
    (haction : t.action = .write topic form) (later : List Turn) : Lifecycle s t later := by
  rcases after_write (s := s) haction with ⟨report, h⟩ | ⟨p, h⟩
  · exact h.lifecycle later
  · exact h.lifecycle later

/-- A session with a broker that knows no topic. -/
def sampleSession : Session :=
  { reader := ⟨{}, .whole 0⟩
    writer := ⟨{}, .whole 0⟩
    service := ⟨{}, ⟨{}, .whole 0⟩, ⟨{}, .whole 0⟩, []⟩
    broker :=
      { topics := [], clock := 0, stampsOnAppend := false, unfound := .null, pollOrder := none
        overdeliver := 0, faults := [], acknowledgement := .atOnce, positions := [] } }

/-- A turn that asks for a write whose send is not told anything yet. -/
def sampleWrite : Turn :=
  ⟨.write "t" [("value", .str (.ofString "v"))], [], .later, none⟩

/-- Turns in which the first send is refused, with a fault when its producer is closed,
    and then delivered. -/
def contradictingSignals : List Turn :=
  [⟨.signal 0 (.refused ⟨.timeout, none⟩) 0, [(.producerClose, ⟨.timeout, none⟩)], .later, none⟩,
    ⟨.signal 0 (.delivered ⟨some 0, some 0, some 0⟩) 0, [], .later, none⟩]

/-- The refusal settles the write although closing raises, and the delivery comes too
    late. -/
theorem write_lifecycle_contradicting_signals :
    sampleWrite.action = .write "t" [("value", .str (.ofString "v"))] ∧
      sampleSession.Created sampleWrite ∧ sampleSession.Silent sampleWrite ∧
      steps (sampleSession.eventsOf sampleWrite contradictingSignals) =
        [.producerNew, .send ⟨"t", [118], none, none, none, []⟩, .producerClose (.whole 0),
          .settled (.failed (.sendFailed "t" ⟨.timeout, none⟩))] ∧
      (sampleSession.stateAfter sampleWrite contradictingSignals).outcome?.isSome ∧
      Lifecycle sampleSession sampleWrite contradictingSignals := by
  have hevents : sampleSession.eventsIn sampleWrite =
      [.producerNew, .send ⟨"t", [118], none, none, none, []⟩] := by
    decide +kernel
  refine ⟨rfl, ⟨?_, rfl⟩, ⟨⟨⟨"t", [118], none, none, none, []⟩, ?_⟩, rfl, rfl⟩, ?_, ?_,
    write_lifecycle rfl contradictingSignals⟩
  · rw [hevents]
    exact List.mem_cons_self
  · rw [hevents]
    exact List.mem_cons_of_mem _ List.mem_cons_self
  · decide +kernel
  · decide +kernel

end Session

end RecordGateway
