import RecordGateway.Proofs.Client.Trace

/-!
# Runs of Calls

An exchange makes calls in a planned order until something fails. This file says what
that means without a look at the exchange.

A call can fail in two ways: it raises, or the answer cannot be used. Both belong to the
call, and so a `Steps` gives for each call what making it and using its answer does to a
world. `Runs` describes a run of calls: each acts on the world that the one before has
left, and nothing comes after the first that fails. An exchange either `Fails` on the
way, after a run of calls that is a beginning of its plan, or it `Completes` the plan and
has an answer. Both compose: a plan is continued by the plan of what comes next, and a
failure is the end of the whole.

## Main definitions

* `calls`: the calls among events.
* `Exchange.ask`: a call whose answer is used.
* `Steps`, `Answer.used`: what calls do to a world.
* `Runs`: a run of calls.
* `Exchange.Fails`: a call of the plan fails, and its failure is the outcome.
* `Exchange.Completes`: no call of the plan fails, and there is an answer.

## Theorems

* `Runs.append`: one run of calls after another.
* `Runs.last_fails`: the last call of a run is the one that fails.
* `Exchange.ask_cases`: a call fails or has an answer that can be used.
* `Exchange.Fails.bind`, `Exchange.Completes.fails`: a failure is the end.
* `Exchange.Completes.bind`: an answer is passed on.
-/

namespace RecordGateway

variable {σ α β γ : Type}

/-- The calls on clients among events. -/
def calls (es : List Event) : List Event :=
  es.filter fun e => e.call?.isSome

/-- The calls among all events are those among the first ones, then those among the others. -/
theorem calls_append (es₁ es₂ : List Event) : calls (es₁ ++ es₂) = calls es₁ ++ calls es₂ :=
  List.filter_append es₁ es₂

/-- Whether there is an outcome, or why not. -/
def status (r : Except Failure α) : Except Failure Unit :=
  r.map fun _ => ()

/-- What making a call and using its answer does to a world: it fails or not. -/
def Answer.used (action : Answer σ α) (use : α → Except Failure β) (s : σ) :
    Except Failure Unit × σ :=
  match action s with
  | (.ok a, s') => (status (use a), s')
  | (.error f, s') => (.error (.fault f), s')

/-- A call that answers fails exactly if its answer cannot be used. -/
theorem Answer.used_ok {action : Answer σ α} {s s' : σ} {a : α} (h : action s = (.ok a, s'))
    (use : α → Except Failure β) : action.used use s = (status (use a), s') := by
  rw [Answer.used, h]

/-- A call that raises fails with its fault, whatever the use. -/
theorem Answer.used_error {action : Answer σ α} {s s' : σ} {f : Fault}
    (h : action s = (.error f, s')) (use : α → Except Failure β) :
    action.used use s = (.error (.fault f), s') := by
  rw [Answer.used, h]

/-- A call fails with a fault, or because its answer cannot be used. -/
theorem Answer.used_eq_error {action : Answer σ α} {use : α → Except Failure β} {s s' : σ}
    {failure : Failure} (h : action.used use s = (.error failure, s')) :
    (∃ f, failure = .fault f) ∨ ∃ a, use a = .error failure := by
  rcases haction : action s with ⟨answer, s₁⟩
  cases answer with
  | error f =>
      rw [used_error haction] at h
      cases h
      exact Or.inl ⟨f, rfl⟩
  -- An answer that can be used is no failure, so the use is what failed.
  | ok a =>
      rw [used_ok haction, status] at h
      cases huse : use a with
      | error e =>
          rw [huse] at h
          cases h
          exact Or.inr ⟨a, huse⟩
      | ok b =>
          rw [huse] at h
          cases h

/-- Only the failures of a use matter. -/
theorem Answer.used_congr (action : Answer σ α) {use : α → Except Failure β}
    {use' : α → Except Failure γ} (h : ∀ a, status (use a) = status (use' a)) :
    action.used use = action.used use' := by
  funext s
  rw [Answer.used, Answer.used]
  cases action s with
  | mk answer s' =>
      cases answer with
      | ok a => simp only [h a]
      -- There is no answer to be used in either way.
      | error f => rfl

/-- What each call does to a world, the use of its answer included. -/
abbrev Steps (σ : Type) := Event → σ → Except Failure Unit × σ

/-- A run of calls from one world to another: none of them fails, or only the last one
    does. -/
inductive Runs (step : Steps σ) : σ → List Event → Option Failure → σ → Prop
  /-- No call. -/
  | none (s : σ) : Runs step s [] none s
  /-- A call that fails, and no other after it. -/
  | fail {s s' : σ} {e : Event} {failure : Failure} (h : step e s = (.error failure, s')) :
      Runs step s [e] (some failure) s'
  /-- A call that does not fail, and others after it. -/
  | go {s s' s'' : σ} {e : Event} {es : List Event} {failure? : Option Failure}
      (h : step e s = (.ok (), s')) (rest : Runs step s' es failure? s'') :
      Runs step s (e :: es) failure? s''

namespace Runs

variable {step : Steps σ}

/-- Calls that do not fail may be followed by others. -/
theorem append {s s' s'' : σ} {es es' : List Event} {failure? : Option Failure}
    (h : Runs step s es .none s') (h' : Runs step s' es' failure? s'') :
    Runs step s (es ++ es') failure? s'' := by
  -- The first run is one without a failure; the index is freed for the induction.
  generalize hnone : (Option.none : Option Failure) = last at h
  induction h with
  | none s => exact h'
  | fail h => cases hnone
  | go h rest ih => exact go h (ih h' hnone)

/-- The failure of a run is that of its last call. -/
theorem last_fails {s s' : σ} {es : List Event} {failure : Failure}
    (h : Runs step s es (some failure) s') :
    ∃ before e s₁, es = before ++ [e] ∧ step e s₁ = (.error failure, s') := by
  generalize hsome : some failure = last at h
  induction h with
  | none s => cases hsome
  | fail h =>
      cases hsome
      exact ⟨[], _, _, rfl, h⟩
  -- The first call does not fail, so the last one is further on, with one more call before it.
  | @go _ _ _ first _ _ h rest ih =>
      rcases ih hsome with ⟨before, e, s₁, rfl, hlast⟩
      exact ⟨first :: before, e, s₁, rfl, hlast⟩

end Runs

namespace Exchange

/-- Make a call and use its answer. -/
def ask (e : Event) (action : Answer σ α) (use : α → Except Failure β) : Exchange σ β := do
  let a ← call e action
  ofExcept (use a)

/-- Some call of the plan fails, and its failure is the outcome. -/
def Fails (step : Steps σ) (x : Exchange σ α) (s : σ) (plan : List Event) : Prop :=
  ∃ es failure s', x.Yields s (.error failure) s' es ∧ calls es <+: plan ∧
    Runs step s (calls es) (some failure) s'

/-- No call of the plan fails, and there is an answer. -/
def Completes (step : Steps σ) (x : Exchange σ α) (s : σ) (plan : List Event) (a : α)
    (s' : σ) : Prop :=
  ∃ es, x.Yields s (.ok a) s' es ∧ calls es = plan ∧ Runs step s plan none s'

variable {step : Steps σ}

/-- An answer that is there completes a plan of no calls. -/
theorem Completes.pure (a : α) (s : σ) : Completes step (Pure.pure a) s [] a s :=
  ⟨[], Yields.pure a s, rfl, Runs.none s⟩

/-- And so does a line in the log, which is no call. -/
theorem Completes.note (step : Steps σ) (n : Notice) (s : σ) :
    Completes step (Exchange.note n) s [] () s :=
  ⟨[.notice n], Yields.note n s, rfl, Runs.none s⟩

/-- A call fails, or it has an answer that can be used. -/
theorem ask_cases (step : Steps σ) (e : Event) {action : Answer σ α} (use : α → Except Failure β)
    (hcall : e.call?.isSome) (hstep : step e = action.used use) (s : σ) :
    Fails step (ask e action use) s [e] ∨
      ∃ a b s', action s = (.ok a, s') ∧ use a = .ok b ∧
        Completes step (ask e action use) s [e] b s' := by
  have hcalls : calls [e] = [e] := List.filter_cons_of_pos hcall
  have hprefix : calls [e] <+: [e] := by simp only [hcalls, List.prefix_refl]
  rcases haction : action s with ⟨answer, s'⟩
  -- The call raises, or its use fails, or there is an answer.
  cases answer with
  | error f =>
      refine Or.inl ⟨[e], .fault f, s', Yields.bind_error (Yields.call_error e haction), ?_, ?_⟩
      · exact hprefix
      · rw [hcalls]
        exact Runs.fail (hstep ▸ Answer.used_error haction use)
  | ok a =>
      have huse : (ask e action use).Yields s (use a) s' ([e] ++ []) :=
        Yields.bind_ok (Yields.call_ok e haction) (Yields.ofExcept (use a) s')
      -- The call has answered, and what it does to the world is decided by the use of its answer.
      have heffect : step e s = (status (use a), s') := hstep ▸ Answer.used_ok haction use
      rw [List.append_nil] at huse
      cases hb : use a with
      | error failure =>
          rw [hb] at heffect huse
          refine Or.inl ⟨[e], failure, s', huse, ?_, ?_⟩
          · exact hprefix
          · rw [hcalls]
            exact Runs.fail heffect
      | ok b =>
          rw [hb] at heffect huse
          exact Or.inr ⟨a, b, s', rfl, hb, [e], huse, hcalls, Runs.go heffect (Runs.none s')⟩

/-- A call whose answer is used in no way that could fail. -/
theorem call_cases (step : Steps σ) (e : Event) {action : Answer σ α} (hcall : e.call?.isSome)
    (hstep : step e = action.used Except.ok) (s : σ) :
    Fails step (call e action) s [e] ∨
      ∃ a s', action s = (.ok a, s') ∧ Completes step (call e action) s [e] a s' := by
  -- Every answer can be used as it is, so this is a call whose answer is used.
  have hask : ask e action Except.ok = call e action := bind_pure (call e action)
  rcases ask_cases step e Except.ok hcall hstep s with hfails | ⟨a, b, s', haction, hb, hcompletes⟩
  · rw [hask] at hfails
    exact Or.inl hfails
  · cases hb
    rw [hask] at hcompletes
    exact Or.inr ⟨a, s', haction, hcompletes⟩

/-- What would come after a failure does not matter, neither to the exchange nor to the
    plan. -/
theorem Fails.bind {x : Exchange σ α} {s : σ} {plan : List Event} (h : Fails step x s plan)
    (f : α → Exchange σ β) (more : List Event) : Fails step (x >>= f) s (plan ++ more) := by
  rcases h with ⟨es, failure, s', hyields, hprefix, hruns⟩
  exact ⟨es, failure, s', Yields.bind_error hyields,
    hprefix.trans (List.prefix_append _ _), hruns⟩

/-- After a plan that was completed comes the next one, in the world that the first has left. -/
theorem Completes.bind {x : Exchange σ α} {f : α → Exchange σ β} {s s' s'' : σ}
    {plan more : List Event} {a : α} {b : β} (h : Completes step x s plan a s')
    (h' : Completes step (f a) s' more b s'') :
    Completes step (x >>= f) s (plan ++ more) b s'' := by
  rcases h with ⟨es, hyields, rfl, hruns⟩
  rcases h' with ⟨es', hyields', rfl, hruns'⟩
  exact ⟨es ++ es', Yields.bind_ok hyields hyields', calls_append es es', hruns.append hruns'⟩

/-- A failure after a plan that was completed: all of its calls were made, and then some of the
    next. -/
theorem Completes.fails {x : Exchange σ α} {f : α → Exchange σ β} {s s' : σ}
    {plan more : List Event} {a : α} (h : Completes step x s plan a s')
    (h' : Fails step (f a) s' more) : Fails step (x >>= f) s (plan ++ more) := by
  rcases h with ⟨es, hyields, rfl, hruns⟩
  rcases h' with ⟨es', failure, s'', hyields', hprefix, hruns'⟩
  refine ⟨es ++ es', failure, s'', Yields.bind_ok hyields hyields', ?_, ?_⟩
  -- The first plan was made in full, so a beginning of the second extends it.
  · rw [calls_append]
    exact (List.prefix_append_right_inj _).mpr hprefix
  · rw [calls_append]
    exact hruns.append hruns'

end Exchange

end RecordGateway
