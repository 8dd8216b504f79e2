import RecordGateway.Client.Exchange

/-!
# Traces of Dialogues and Exchanges

What a dialogue or an exchange comes to when it is started in a given world: its
answer, the world afterwards and the events on the way.

The definitions thread a growing list of events through the world, and `run`
looks only at the list that begins empty. That is not a form that composes: the
second half of an exchange begins with the events of the first half. `Yields`
says the same for every list of earlier events at once. The earlier events stay
in front and have no influence, and so the traces of two halves are simply
appended.

Each rule below handles one way to build an exchange. Together they work like a
symbolic execution: a proof follows the exchange call by call, splits where a
call may answer or raise, and reads off the trace at the end with `run_eq`.

Sometimes only the sort of the events matters, and not which calls were made in which
order. `Emits` says that of every world at once, and so it needs no case for a call that
raises.

## Main definitions

* `Dialogue.Yields`: what a dialogue comes to from a world.
* `Exchange.Yields`: what an exchange comes to from a world.
* `Dialogue.Emits`, `Exchange.Emits`: of which sort all events are.

## Theorems

* `Yields.run_eq`: what a run from no events gives.
* `Dialogue.Yields.bind`: one dialogue after another.
* `Exchange.Yields.bind_ok`: an exchange goes on after an answer.
* `Exchange.Yields.bind_error`: a failure is the end of an exchange.
* `Exchange.Yields.call_ok`, `Exchange.Yields.call_error`: a call that answers,
  and one that raises.
* `Exchange.Yields.closing_ok`, `Exchange.Yields.closing_error`: closing keeps
  the outcome, unless it fails itself.
* `Dialogue.Emits.bind`, `Exchange.Emits.bind`, `Exchange.Emits.closing`: the events of the
  whole are those of its parts.
-/

namespace RecordGateway

variable {σ α β : Type}

/-- Started in the world `s`, the dialogue answers `a` in the world `s'` after the
    events `es`, whatever happened before. -/
def Dialogue.Yields (x : Dialogue σ α) (s : σ) (a : α) (s' : σ) (es : List Event) : Prop :=
  ∀ before, StateT.run x ⟨s, before⟩ = (a, ⟨s', before ++ es⟩)

/-- Started in the world `s`, the exchange has the outcome `r` in the world `s'`
    after the events `es`, whatever happened before. -/
def Exchange.Yields (x : Exchange σ α) (s : σ) (r : Except Failure α) (s' : σ)
    (es : List Event) : Prop :=
  Dialogue.Yields x.outcome s r s' es

namespace Dialogue.Yields

/-- A run begins with no events, so its events are those of the dialogue. -/
theorem run_eq {x : Dialogue σ α} {s s' : σ} {a : α} {es : List Event}
    (h : Yields x s a s' es) : x.run s = (a, ⟨s', es⟩) := by
  have h0 := h []
  simpa only [Dialogue.run, List.nil_append] using h0

/-- An answer that is there needs no event. -/
theorem pure (a : α) (s : σ) : Yields (Pure.pure a) s a s [] := by
  intro before
  rw [List.append_nil]
  rfl

/-- One dialogue after another: the events of both, in this order. -/
theorem bind {x : Dialogue σ α} {f : α → Dialogue σ β} {s s₁ s₂ : σ} {a : α} {b : β}
    {es₁ es₂ : List Event} (hx : Yields x s a s₁ es₁) (hf : Yields (f a) s₁ b s₂ es₂) :
    Yields (x >>= f) s b s₂ (es₁ ++ es₂) := by
  intro before
  -- For the second half, the events of the first are among those before.
  have hrest := hf (before ++ es₁)
  rw [List.append_assoc] at hrest
  simp only [StateT.run_bind, hx before]
  exact hrest

/-- What is made of an answer adds no event. -/
theorem map {x : Dialogue σ α} {s s' : σ} {a : α} {es : List Event} (h : Yields x s a s' es)
    (f : α → β) : Yields (f <$> x) s (f a) s' es := by
  -- What is made of the answer is a dialogue with no events, one after the first.
  rw [map_eq_pure_bind, ← List.append_nil es]
  exact h.bind (pure (f a) s')

/-- Recording an event leaves the world as it is. -/
theorem record (e : Event) (s : σ) : Yields (Dialogue.record e) s () s [e] :=
  fun _ => rfl

/-- A line in the log is an event like any other. -/
theorem note (n : Notice) (s : σ) : Yields (Dialogue.note n) s () s [.notice n] :=
  record (.notice n) s

/-- Whether a call answers or raises, attempting it adds no event of its own. -/
theorem attempt {action : Answer σ α} {s s' : σ} {answer : Except Fault α}
    (h : action s = (answer, s')) : Yields (Dialogue.attempt action) s answer s' [] := by
  intro before
  have hattempt : StateT.run (Dialogue.attempt action) ⟨s, before⟩ =
      ((action s).1, ⟨(action s).2, before⟩) := rfl
  rw [hattempt, h, List.append_nil]

end Dialogue.Yields

namespace Exchange

/-- Binding, seen as a dialogue: a failure skips the rest. -/
theorem outcome_bind (x : Exchange σ α) (f : α → Exchange σ β) :
    (x >>= f).outcome = (x.outcome >>= fun r => match r with
      | .ok a => (f a).outcome
      | .error e => Pure.pure (.error e)) := by
  -- How binding goes on after an outcome is the same match, written another way.
  have hcont : ExceptT.bindCont f = fun r => match r with
      | .ok a => (f a).outcome
      | .error e => Pure.pure (.error e) := by
    funext r
    cases r <;> rfl
  rw [← hcont]
  rfl

/-- A dialogue as an exchange always answers. -/
theorem outcome_ofDialogue (x : Dialogue σ α) :
    (ofDialogue x).outcome = (x >>= fun a => Pure.pure (.ok a)) :=
  rfl

/-- Closing, seen as a dialogue: it comes after every outcome, and keeps it unless it fails. -/
theorem outcome_closing (body : Exchange σ α) (close : Exchange σ Unit) :
    (closing body close).outcome = (body.outcome >>= fun first =>
      close.outcome >>= fun last => match last with
        | .ok () => Pure.pure first
        | .error e => Pure.pure (.error e)) :=
  rfl

namespace Yields

/-- The run of an exchange is that of its dialogue. -/
theorem run_eq {x : Exchange σ α} {s s' : σ} {r : Except Failure α} {es : List Event}
    (h : Yields x s r s' es) : x.run s = (r, ⟨s', es⟩) :=
  Dialogue.Yields.run_eq h

/-- An answer that is there needs no event. -/
theorem pure (a : α) (s : σ) : Yields (Pure.pure a) s (.ok a) s [] :=
  Dialogue.Yields.pure (Except.ok a : Except Failure α) s

/-- An outcome that is known needs no event, whether it is an answer or a failure. -/
theorem ofExcept (r : Except Failure α) (s : σ) : Yields (Exchange.ofExcept r) s r s [] :=
  Dialogue.Yields.pure r s

/-- An exchange that is a dialogue has its events. -/
theorem ofDialogue {x : Dialogue σ α} {s s' : σ} {a : α} {es : List Event}
    (h : Dialogue.Yields x s a s' es) : Yields (Exchange.ofDialogue x) s (.ok a) s' es := by
  rw [Exchange.Yields, outcome_ofDialogue, ← List.append_nil es]
  exact Dialogue.Yields.bind h (Dialogue.Yields.pure _ s')

/-- An exchange goes on after an answer. -/
theorem bind_ok {x : Exchange σ α} {f : α → Exchange σ β} {s s₁ s₂ : σ} {a : α}
    {r : Except Failure β} {es₁ es₂ : List Event} (hx : Yields x s (.ok a) s₁ es₁)
    (hf : Yields (f a) s₁ r s₂ es₂) : Yields (x >>= f) s r s₂ (es₁ ++ es₂) := by
  rw [Exchange.Yields, outcome_bind]
  exact Dialogue.Yields.bind hx hf

/-- A failure is the end of an exchange, and what would follow is left out. -/
theorem bind_error {x : Exchange σ α} {f : α → Exchange σ β} {s s' : σ} {e : Failure}
    {es : List Event} (hx : Yields x s (.error e) s' es) :
    Yields (x >>= f) s (.error e) s' es := by
  -- In the dialogue the rest is there, but after a failure it only hands the failure on.
  rw [Exchange.Yields, outcome_bind, ← List.append_nil es]
  exact Dialogue.Yields.bind hx (Dialogue.Yields.pure _ s')

/-- Recording an event never fails. -/
theorem record (e : Event) (s : σ) : Yields (Exchange.record e) s (.ok ()) s [e] :=
  ofDialogue (Dialogue.Yields.record e s)

/-- And a line in the log is an event like any other. -/
theorem note (n : Notice) (s : σ) : Yields (Exchange.note n) s (.ok ()) s [.notice n] :=
  record (.notice n) s

/-- Attempting a call does not fail, also where the call raises. -/
theorem attempt {action : Answer σ α} {s s' : σ} {answer : Except Fault α}
    (h : action s = (answer, s')) : Yields (Exchange.attempt action) s (.ok answer) s' [] :=
  ofDialogue (Dialogue.Yields.attempt h)

/-- A call that answers. -/
theorem call_ok {action : Answer σ α} {s s' : σ} {a : α} (e : Event)
    (h : action s = (.ok a, s')) : Yields (Exchange.call e action) s (.ok a) s' [e] :=
  bind_ok (record e s) (bind_ok (attempt h) (pure a s'))

/-- A call that raises. The event is there all the same, since it is recorded before. -/
theorem call_error {action : Answer σ α} {s s' : σ} {f : Fault} (e : Event)
    (h : action s = (.error f, s')) :
    Yields (Exchange.call e action) s (.error (.fault f)) s' [e] :=
  bind_ok (record e s) (bind_ok (attempt h) (ofExcept (.error (.fault f)) s'))

/-- Closing without a failure keeps the outcome. -/
theorem closing_ok {body : Exchange σ α} {close : Exchange σ Unit} {s s₁ s₂ : σ}
    {r : Except Failure α} {es₁ es₂ : List Event} (hb : Yields body s r s₁ es₁)
    (hc : Yields close s₁ (.ok ()) s₂ es₂) :
    Yields (Exchange.closing body close) s r s₂ (es₁ ++ es₂) := by
  -- Closing comes after the outcome of the body, and what is left then only hands that on.
  rw [Exchange.Yields, outcome_closing, ← List.append_nil es₂]
  exact Dialogue.Yields.bind hb (Dialogue.Yields.bind hc (Dialogue.Yields.pure _ s₂))

/-- A failure to close takes the place of the outcome. -/
theorem closing_error {body : Exchange σ α} {close : Exchange σ Unit} {s s₁ s₂ : σ}
    {r : Except Failure α} {e : Failure} {es₁ es₂ : List Event} (hb : Yields body s r s₁ es₁)
    (hc : Yields close s₁ (.error e) s₂ es₂) :
    Yields (Exchange.closing body close) s (.error e) s₂ (es₁ ++ es₂) := by
  -- The same events, but what is left then forgets the outcome of the body.
  rw [Exchange.Yields, outcome_closing, ← List.append_nil es₂]
  exact Dialogue.Yields.bind hb (Dialogue.Yields.bind hc (Dialogue.Yields.pure _ s₂))

end Yields

end Exchange

/-- Whatever the world, the dialogue has an answer and all of its events are of some sort. -/
def Dialogue.Emits (P : Event → Prop) (x : Dialogue σ α) : Prop :=
  ∀ s, ∃ a s' es, x.Yields s a s' es ∧ ∀ e ∈ es, P e

/-- Whatever the world, the exchange has an outcome and all of its events are of some sort. -/
def Exchange.Emits (P : Event → Prop) (x : Exchange σ α) : Prop :=
  Dialogue.Emits P x.outcome

variable {P : Event → Prop}

namespace Dialogue.Emits

/-- There is nothing to be of a sort. -/
theorem pure (a : α) : Emits P (Pure.pure a : Dialogue σ α) :=
  fun s => ⟨a, s, [], Yields.pure a s, List.forall_mem_nil _⟩

/-- The event that is recorded is the only one. -/
theorem record {e : Event} (h : P e) : Emits P (Dialogue.record e : Dialogue σ Unit) :=
  fun s => ⟨(), s, [e], Yields.record e s, List.forall_mem_singleton.mpr h⟩

/-- A call by itself records nothing. -/
theorem attempt (action : Answer σ α) : Emits P (Dialogue.attempt action) :=
  fun s => ⟨(action s).1, (action s).2, [], Yields.attempt rfl, List.forall_mem_nil _⟩

/-- The second dialogue has to be of the sort after every answer, since none is ruled out. -/
theorem bind {x : Dialogue σ α} {f : α → Dialogue σ β} (hx : Emits P x)
    (hf : ∀ a, Emits P (f a)) : Emits P (x >>= f) := by
  intro s
  rcases hx s with ⟨a, s₁, es₁, hyields₁, hes₁⟩
  rcases hf a s₁ with ⟨b, s₂, es₂, hyields₂, hes₂⟩
  -- The answer of the first says from which world, and with what, the second one goes on.
  exact ⟨b, s₂, es₁ ++ es₂, hyields₁.bind hyields₂, List.forall_mem_append.mpr ⟨hes₁, hes₂⟩⟩

end Dialogue.Emits

namespace Exchange.Emits

/-- An answer that is there needs no event. -/
theorem pure (a : α) : Emits P (Pure.pure a : Exchange σ α) :=
  Dialogue.Emits.pure (Except.ok a : Except Failure α)

/-- Nor does a failure that is known. -/
theorem ofExcept (r : Except Failure α) : Emits P (Exchange.ofExcept r : Exchange σ α) :=
  Dialogue.Emits.pure r

/-- A dialogue is of the same sort as an exchange: what is added at its end records nothing. -/
theorem ofDialogue {x : Dialogue σ α} (h : Dialogue.Emits P x) :
    Emits P (Exchange.ofDialogue x) := by
  rw [Exchange.Emits, outcome_ofDialogue]
  exact h.bind fun a => Dialogue.Emits.pure _

/-- Recording, as a step of an exchange. -/
theorem record {e : Event} (h : P e) : Emits P (Exchange.record e : Exchange σ Unit) :=
  ofDialogue (Dialogue.Emits.record h)

/-- A call by itself records nothing in an exchange either, also where it raises. -/
theorem attempt (action : Answer σ α) : Emits P (Exchange.attempt action) :=
  ofDialogue (Dialogue.Emits.attempt action)

/-- The second exchange has to be of the sort after every answer. -/
theorem bind {x : Exchange σ α} {f : α → Exchange σ β} (hx : Emits P x)
    (hf : ∀ a, Emits P (f a)) : Emits P (x >>= f) := by
  rw [Exchange.Emits, outcome_bind]
  refine Dialogue.Emits.bind hx fun r => ?_
  -- After a failure there are no more events.
  cases r with
  | ok a => exact hf a
  | error e => exact Dialogue.Emits.pure _

/-- A call is of the sort if its event is, whatever it answers. -/
theorem call {e : Event} (h : P e) (action : Answer σ α) : Emits P (Exchange.call e action) := by
  -- The event is recorded first, then the answer decides between an answer and a failure.
  refine (record h).bind fun _ => (attempt action).bind fun answer => ?_
  cases answer with
  | ok a => exact pure a
  | error f => exact ofExcept (.error (.fault f))

/-- Closing has to be of the sort too, since it is never left out. -/
theorem closing {body : Exchange σ α} {close : Exchange σ Unit} (hbody : Emits P body)
    (hclose : Emits P close) : Emits P (Exchange.closing body close) := by
  rw [Exchange.Emits, outcome_closing]
  refine Dialogue.Emits.bind hbody fun first => Dialogue.Emits.bind hclose fun last => ?_
  -- What is left is to choose between two outcomes.
  cases last with
  | ok u => exact Dialogue.Emits.pure first
  | error e => exact Dialogue.Emits.pure _

end Exchange.Emits

end RecordGateway
