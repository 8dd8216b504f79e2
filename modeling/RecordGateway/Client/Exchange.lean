import RecordGateway.Client.Event

/-!
# Exchanges with a Client

Reading and publishing talk to a client of the broker, of which they know only
that each call answers or raises a fault, and that it may change the world. An
exchange is a computation over an arbitrary world: it answers or fails, and
either way leaves a world and the events so far. Nothing that happened is undone
by a failure.

A call records its event first, so the events of an exchange show every call
that was made, the one that failed included.

## Main definitions

* `Answer`: what one call on a client does to a world.
* `Dialogue`: a computation that talks to clients and cannot fail.
* `Exchange`: one that may fail.
* `Dialogue.record`, `Dialogue.note`: record an event, a line in a log.
* `Exchange.call`: make a call.
* `Exchange.closing`: close a client after an exchange, whatever became of it.
-/

namespace RecordGateway

/-- One call on a client: an answer or a fault, and the world afterwards. -/
abbrev Answer (σ α : Type) := σ → Except Fault α × σ

/-- The world and the events so far. -/
structure Progress (σ : Type) where
  /-- The world. -/
  world : σ
  /-- The events so far, in order. -/
  events : List Event

/-- A computation that talks to clients in a world `σ` and always answers. -/
abbrev Dialogue (σ α : Type) := StateM (Progress σ) α

/-- A computation that talks to clients in a world `σ` and may fail. -/
abbrev Exchange (σ α : Type) := ExceptT Failure (StateM (Progress σ)) α

namespace Dialogue

variable {σ α : Type}

/-- Run a dialogue from a world: its answer, the world and the events. -/
def run (x : Dialogue σ α) (world : σ) : α × Progress σ :=
  StateT.run x ⟨world, []⟩

/-- Record an event. -/
def record (e : Event) : Dialogue σ Unit :=
  modify fun p => { p with events := p.events ++ [e] }

/-- Write a line to a log. -/
def note (n : Notice) : Dialogue σ Unit :=
  record (.notice n)

/-- Let a call act on the world: its answer or its fault. -/
def attempt (action : Answer σ α) : Dialogue σ (Except Fault α) := do
  let p ← get
  let (answer, world) := action p.world
  set { p with world := world }
  return answer

end Dialogue

namespace Exchange

variable {σ α : Type}

/-- The outcome of an exchange as the answer of a dialogue. -/
def outcome (x : Exchange σ α) : Dialogue σ (Except Failure α) :=
  ExceptT.run x

/-- Run an exchange from a world: its outcome, the world and the events. -/
def run (x : Exchange σ α) (world : σ) : Except Failure α × Progress σ :=
  x.outcome.run world

/-- An outcome that does not depend on the world. -/
def ofExcept (r : Except Failure α) : Exchange σ α :=
  ExceptT.mk (pure r)

/-- A dialogue as an exchange that does not fail. -/
def ofDialogue (x : Dialogue σ α) : Exchange σ α :=
  ExceptT.lift x

/-- Record an event. -/
def record (e : Event) : Exchange σ Unit :=
  ofDialogue (Dialogue.record e)

/-- Write a line to a log. -/
def note (n : Notice) : Exchange σ Unit :=
  record (.notice n)

/-- Let a call act on the world: its answer or its fault. -/
def attempt (action : Answer σ α) : Exchange σ (Except Fault α) :=
  ofDialogue (Dialogue.attempt action)

/-- Make a call: record its event, let it act, and fail with its fault. -/
def call (e : Event) (action : Answer σ α) : Exchange σ α := do
  record e
  match ← attempt action with
  | .ok a => return a
  | .error f => throw (.fault f)

/-- Do the second exchange after the first, whatever became of the first. The
    outcome is the first one's, unless the second fails. -/
def closing (body : Exchange σ α) (close : Exchange σ Unit) : Exchange σ α :=
  ExceptT.mk do
    let first ← body.outcome
    match ← close.outcome with
    | Except.ok () => return first
    | Except.error e => return Except.error e

end Exchange

end RecordGateway
