import RecordGateway.Client.Consumer
import RecordGateway.Proofs.Client.Calls
import RecordGateway.Proofs.Partition.Order
import RecordGateway.Reading

/-!
# The Protocol of a Read

Which calls one read makes, for every consumer in every world.

The calls that a read plans depend on the answers it gets: which logs there are, which
of them have to be asked for their ends, and where they are moved to. All of that is
a `Course`, and a course fixes the plan of calls. Whatever the answers were, the
course of a read is in order: it keeps to the topic and to the filter, and it moves
each log once, in ascending order of ids.

Three answers are not just passed on. Partitions are selected, and perhaps none is left;
ends are looked up, and perhaps one was not reported; records are shown, and perhaps one
cannot be. In `readSteps` these failures belong to the calls whose answers they come
from. So a read ends in two ways only: after the first call that fails, or after the
poll, with the page. A consumer that was made is closed after that, and its closing has
the last word only if it raises.

## Main definitions

* `Course`: what a read learns from the answers it gets.
* `Course.plan`: the calls between making a consumer and closing it.
* `Course.Fits`: a course in order.
* `readSteps`: what the calls of a read do, the use of their answers included.
* `Halts`: how the calls end, and with which outcome.
* `Fetched`: the calls of a read with its consumer.
* `Reads`: the calls of a read from making the consumer to closing it.

## Theorems

* `Positions.find_cases`: the calls that find positions.
* `Positions.apply_cases`: the calls that move the consumer.
* `Reader.fetch_settles`: the calls between making a consumer and closing it.
* `Reader.read_unchecked`, `Reader.read_uncreated`, `Reader.read_created`: a read up to its
  consumer.
* `Reader.read_protocol`: all calls of a read.
-/

namespace RecordGateway

variable {σ : Type}

/-- What a read learns from the answers of its consumer. -/
structure Course where
  /-- The logs that it takes in. -/
  logs : List TopicPartition
  /-- The logs without a record at or after the instant. -/
  later : List TopicPartition
  /-- Where the logs are moved to. -/
  moves : Positions

namespace Course

/-- The questions about positions. For an instant, ends are asked only of logs without
    a record at or after it, and only if there are such logs. -/
def questions (logs later : List TopicPartition) (offset : Option Int) :
    Option Instant → List Event
  | some t =>
    [.offsetsForTimes (Entries.ofPairs (logs.map fun log => (log, t)))] ++
      if later.isEmpty then [] else [.endOffsets later]
  | none => if offset.isSome then [.endOffsets logs] else []

/-- The calls that move the consumer. -/
def seeks (moves : Positions) : List Event :=
  moves.map fun move => .seek move.1 move.2

/-- The calls between making a consumer and closing it. -/
def plan (course : Course) (r : Reader) (q : Query) (since : Option Instant) : List Event :=
  [.partitionsOf q.topic] ++ ([.assign course.logs] ++
    (questions course.logs course.later q.offset since ++
      (seeks course.moves ++ [.poll r.pollTimeout q.limit])))

/-- A course in order: logs of the topic that the filter lets through, sorted by id, and
    one move for each of them in the same order, or none if there is neither an instant
    nor an offset. -/
structure Fits (course : Course) (q : Query) (since : Option Instant) : Prop where
  /-- There are logs. -/
  nonempty : course.logs ≠ []
  /-- They belong to the topic, and the filter lets them through. -/
  selected : ∀ log ∈ course.logs,
    log.topic = q.topic ∧ Selection.admits q.partition log.partition
  /-- They are sorted. -/
  sorted : course.logs.Pairwise fun a b => a.partition ≤ b.partition
  /-- Ends are asked of some of them. -/
  later : course.later.Sublist course.logs
  /-- Each is moved, if there is an instant or an offset. -/
  moved : since.isSome ∨ q.offset.isSome →
    ∀ log, log ∈ course.moves.map Prod.fst ↔ log ∈ course.logs
  /-- None is moved otherwise. -/
  unmoved : since = none → q.offset = none → course.moves = []
  /-- The moves are in ascending order of ids, one for each log. -/
  ascending : (course.moves.map Prod.fst).Pairwise TopicPartition.before

end Course

/-- What each call of a read does: it fails if it raises, if no partition is left in the
    answer, if an end is not in the answer, or if a record in the answer cannot be
    shown. -/
def readSteps (c : Consumer σ) (q : Query) (wanted : List FieldName) : Steps σ
  | .partitionsOf topic =>
    (c.partitionsOf topic).used fun available => Selection.logs topic available q.partition
  | .assign logs => (c.assign logs).used Except.ok
  | .offsetsForTimes asked => (c.offsetsForTimes asked).used Except.ok
  | .endOffsets asked => (c.endOffsets asked).used (Positions.reported asked)
  | .seek log offset => (c.seek log offset).used Except.ok
  | .poll timeout limit => (c.poll timeout limit).used (Page.ofBatches wanted)
  | _ => fun s => (.ok (), s)

/-- How the calls of a read with its consumer end, given their plan: the calls made, the
    outcome, and the world afterwards. -/
inductive Halts (r : Reader) (c : Consumer σ) (q : Query) (wanted : List FieldName)
    (plan : List Event) (s : σ) : List Event → Except Failure Page → σ → Prop
  /-- The calls stop at the first that fails, and its failure is the outcome. -/
  | failed {made : List Event} {failure : Failure} {s' : σ} (hplan : made <+: plan)
      (hruns : Runs (readSteps c q wanted) s made (some failure) s') :
      Halts r c q wanted plan s made (.error failure) s'
  /-- All calls are made, and the outcome is the page of what the poll returned. -/
  | answered {before : List Event} {batches : List (TopicPartition × List ConsumedRecord)}
      {page : Page} {s₁ s' : σ} (hplan : plan = before ++ [.poll r.pollTimeout q.limit])
      (hruns : Runs (readSteps c q wanted) s before none s₁)
      (hanswer : c.poll r.pollTimeout q.limit s₁ = (.ok batches, s'))
      (hpage : Page.ofBatches wanted batches = .ok page) :
      Halts r c q wanted plan s plan (.ok page) s'

/-- A failure that says that there is no such topic or partition. -/
def Failure.Unknown (failure : Failure) : Prop :=
  (∃ topic, failure = .noSuchTopic topic) ∨
    ∃ topic filter, failure = .noSuchPartition topic filter

/-- The calls of a read with its consumer, their outcome, and the world afterwards. -/
structure Fetched (r : Reader) (c : Consumer σ) (q : Query) (since : Option Instant)
    (wanted : List FieldName) (s : σ) (made : List Event) (first : Except Failure Page)
    (s' : σ) : Prop where
  /-- The calls are a beginning of the plan of a course in order, with the logs selected
      from the answer, and end as they must. -/
  planned : ∃ course : Course, course.Fits q since ∧
    (∀ available logs s₁, c.partitionsOf q.topic s = (.ok available, s₁) →
      Selection.logs q.topic available q.partition = .ok logs → course.logs = logs) ∧
    made <+: course.plan r q since ∧ Halts r c q wanted (course.plan r q since) s made first s'
  /-- Nothing is called after the topic or the partition turns out to be unknown. -/
  unknown : ∀ failure, first = .error failure → failure.Unknown →
    made = [.partitionsOf q.topic]

/-- The outcome of a read after closing: that of closing, if it raises. -/
def closed (first : Except Failure Page) : Except Fault Unit → Except Failure Page
  | .ok () => first
  | .error f => .error (.fault f)

/-- What a read checks before it asks for a consumer: the instant and the fields of the
    query, and the broker version in its settings. -/
def Reader.checks (r : Reader) (q : Query) :
    Except Failure (Option Instant × List FieldName) := do
  let (since, wanted) ← q.prepare
  let _ ← (Connection.consumer r.settings (some q.limit)).mapError .badVersion
  return (since, wanted)

/-- The calls of a read, its outcome, and the world afterwards. -/
inductive Reads (r : Reader) (c : Consumer σ) (q : Query) (s : σ) :
    List Event → Except Failure Page → σ → Prop
  /-- A check fails, and nothing is called. -/
  | unchecked {e : Failure} (hchecks : r.checks q = .error e) : Reads r c q s [] (.error e) s
  /-- Making the consumer raises, and there is nothing to close. -/
  | uncreated {since : Option Instant} {wanted : List FieldName} {f : Fault} {s' : σ}
      (hchecks : r.checks q = .ok (since, wanted))
      (hcreate : c.create (some q.limit) s = (.error f, s')) :
      Reads r c q s [.consumerNew (some q.limit)] (.error (.fault f)) s'
  /-- There is a consumer. It is closed after everything else. -/
  | created {since : Option Instant} {wanted : List FieldName} {made : List Event}
      {first : Except Failure Page} {last : Except Fault Unit} {s₀ s₁ s₂ : σ}
      (hchecks : r.checks q = .ok (since, wanted))
      (hcreate : c.create (some q.limit) s = (.ok (), s₀))
      (hfetched : Fetched r c q since wanted s₀ made first s₁)
      (hclose : c.close s₁ = (last, s₂)) :
      Reads r c q s (.consumerNew (some q.limit) :: made ++ [.consumerClose])
        (closed first last) s₂

/-- Positions in order: one for each log, sorted by id, or none at all if there is
    neither an instant nor an offset. -/
def InOrder (logs : List TopicPartition) (offset : Option Int) (since : Option Instant)
    (positions : Positions) : Prop :=
  if since.isSome ∨ offset.isSome then
    (∀ log, log ∈ positions.map Prod.fst ↔ log ∈ logs) ∧
      (positions.map Prod.fst).Sublist logs ∧ (positions.map Prod.fst).Nodup
  else positions = []

/-- There are positions in order for all logs. -/
theorem exists_inOrder (logs : List TopicPartition) (offset : Option Int)
    (since : Option Instant) : ∃ positions, InOrder logs offset since positions := by
  by_cases hmoves : since.isSome ∨ offset.isSome
  · refine ⟨Entries.ofPairs (logs.map fun log => (log, 0)), ?_⟩
    have hkeys := Entries.keys_map (fun _ => (0 : Int)) logs
    rw [InOrder, if_pos hmoves]
    refine ⟨fun log => ?_, ?_, Entries.nodup_keys_ofPairs _⟩
    · rw [Entries.mem_keys_ofPairs, hkeys]
    · have hsub := Entries.keys_ofPairs_sublist (logs.map fun log => (log, (0 : Int)))
      rwa [hkeys] at hsub
  · refine ⟨[], ?_⟩
    rw [InOrder, if_neg hmoves]

namespace Course

/-- Selected logs with positions in order make a course in order. -/
theorem fits_of_inOrder {q : Query} {since : Option Instant} {available : Option (List Int)}
    {logs later : List TopicPartition} {moves : Positions}
    (hlogs : Selection.logs q.topic available q.partition = .ok logs)
    (hlater : later.Sublist logs) (hmoves : InOrder logs q.offset since moves) :
    Fits ⟨logs, later, moves⟩ q since := by
  rcases Selection.logs_eq_ok hlogs with ⟨hne, heq⟩
  have hnonempty : logs ≠ [] := by
    rw [heq]
    exact fun h => hne (List.map_eq_nil_iff.mp h)
  have hselected : ∀ log ∈ logs,
      log.topic = q.topic ∧ Selection.admits q.partition log.partition := by
    rw [heq]
    intro log hlog
    rcases List.mem_map.mp hlog with ⟨id, hid, rfl⟩
    exact ⟨rfl, ((Selection.mem_selected id available q.partition).mp hid).2⟩
  have hsorted := Selection.logs_pairwise hlogs
  by_cases hmoved : since.isSome ∨ q.offset.isSome
  · rw [InOrder, if_pos hmoved] at hmoves
    rcases hmoves with ⟨hmem, hsub, hnodup⟩
    refine ⟨hnonempty, hselected, hsorted, hlater, fun _ => hmem, fun hsince hoffset => ?_, ?_⟩
    · rw [hsince, hoffset] at hmoved
      exact absurd hmoved (by decide)
    · exact Positions.pairwise_before (fun log hlog => (hselected log hlog).1) hsorted hsub hnodup
  · rw [InOrder, if_neg hmoved] at hmoves
    refine ⟨hnonempty, hselected, hsorted, hlater, fun h => absurd h hmoved, fun _ _ => hmoves, ?_⟩
    rw [hmoves]
    exact List.Pairwise.nil

/-- There is a course in order for every query. -/
theorem exists_fits (q : Query) (since : Option Instant) :
    ∃ course : Course, course.Fits q since := by
  -- One log is enough: that of the partition in the filter, or else that of zero.
  have hadmits : Selection.admits q.partition (q.partition.getD 0) = true := by
    cases q.partition with
    | none => rfl
    | some id => exact beq_self_eq_true id
  have hselected : Selection.selected (some [q.partition.getD 0]) q.partition =
      [q.partition.getD 0] := by
    rw [Selection.selected, Selection.ascending, Option.getD_some, List.mergeSort_singleton,
      List.filter_cons_of_pos hadmits, List.filter_nil]
  have hlogs : Selection.logs q.topic (some [q.partition.getD 0]) q.partition =
      .ok [⟨q.topic, q.partition.getD 0⟩] := by
    rw [Selection.logs_eq, hselected]
    rfl
  rcases exists_inOrder [⟨q.topic, q.partition.getD 0⟩] q.offset since with ⟨moves, hmoves⟩
  exact ⟨_, fits_of_inOrder hlogs (List.nil_sublist _) hmoves⟩

end Course

namespace Positions

variable (c : Consumer σ) (q : Query) (wanted : List FieldName)

/-- Finding positions makes the calls of a plan: one of them fails, or there are
    positions in order. -/
def Finds (x : Exchange σ Positions) (logs : List TopicPartition) (offset : Option Int)
    (since : Option Instant) (s : σ) (plan : List Event) : Prop :=
  Exchange.Fails (readSteps c q wanted) x s plan ∨
    ∃ positions s', Exchange.Completes (readSteps c q wanted) x s plan positions s' ∧
      InOrder logs offset since positions

variable {c q wanted}

theorem inOrder_of_forEach {logs : List TopicPartition}
    {position : TopicPartition → Except Failure Int} {positions : Positions}
    (h : forEach logs position = .ok positions) {offset : Option Int} {since : Option Instant}
    (hmoves : since.isSome ∨ offset.isSome) : InOrder logs offset since positions := by
  rw [InOrder, if_pos hmoves]
  rcases forEach_eq_ok h with ⟨hmem, hsub, hnodup, -⟩
  exact ⟨hmem, hsub, hnodup⟩

/-- Ends are asked for and used for positions that need no others. -/
theorem ask_ends_finds {logs asked : List TopicPartition} {offset : Option Int}
    {since : Option Instant} {use : List (TopicPartition × Int) → Except Failure Positions}
    (huse : ∀ ends, status (use ends) = reported asked ends)
    (horder : ∀ ends positions, use ends = .ok positions → InOrder logs offset since positions)
    (s : σ) :
    Finds c q wanted (Exchange.ask (.endOffsets asked) (c.endOffsets asked) use) logs offset since
      s [.endOffsets asked] := by
  -- The positions fail exactly if an end is not reported, which is the step's own failure.
  have hstep : readSteps c q wanted (.endOffsets asked) = (c.endOffsets asked).used use := by
    refine Answer.used_congr _ fun ends => ?_
    rw [huse ends]
    cases reported asked ends <;> rfl
  rcases Exchange.ask_cases _ _ _ rfl hstep s with
    hfails | ⟨ends, positions, s', -, hends, hcompletes⟩
  · exact Or.inl hfails
  · exact Or.inr ⟨positions, s', hcompletes, horder ends positions hends⟩

variable (c q wanted)

/-- The rest of finding positions for an instant, once the consumer has answered for
    it. -/
def findRest (logs : List TopicPartition) (found : List (TopicPartition × Option Int)) :
    Exchange σ Positions :=
  if (missing found logs).isEmpty then Exchange.ofExcept (ofFound logs found [])
  else Exchange.ask (.endOffsets (missing found logs)) (c.endOffsets (missing found logs))
    (ofFound logs found)

/-- Both ways to go on after the answer are one exchange. -/
theorem find_instant_eq (logs : List TopicPartition) (offset : Option Int) (t : Instant) :
    find c logs offset (some t) =
      (Exchange.call (.offsetsForTimes (Entries.ofPairs (logs.map fun log => (log, t))))
        (c.offsetsForTimes (Entries.ofPairs (logs.map fun log => (log, t)))) >>= fun answer =>
          findRest c logs (answer.getD [])) := by
  simp only [find, findRest]
  refine congrArg _ (funext fun answer => ?_)
  split_ifs <;> rfl

/-- The logs without an offset are asked for their ends, if there are any. -/
theorem findRest_finds (logs : List TopicPartition) (found : List (TopicPartition × Option Int))
    (offset : Option Int) (t : Instant) (s : σ) :
    Finds c q wanted (findRest c logs found) logs offset (some t) s
      (if (missing found logs).isEmpty then [] else [.endOffsets (missing found logs)]) := by
  have horder : ∀ ends positions, ofFound logs found ends = .ok positions →
      InOrder logs offset (some t) positions :=
    fun ends positions h => inOrder_of_forEach h (Or.inl rfl)
  by_cases hmissing : (missing found logs).isEmpty
  · rw [findRest, if_pos hmissing, if_pos hmissing]
    cases hfound : ofFound logs found [] with
    | ok positions =>
        exact Or.inr ⟨positions, s, Exchange.Completes.pure positions s, horder [] _ hfound⟩
    | error e =>
        -- With no log to ask about, no end is needed.
        have hfails := ofFound_fails logs found []
        rw [hfound, List.isEmpty_iff.mp hmissing] at hfails
        cases hfails
  · rw [findRest, if_neg hmissing, if_neg hmissing]
    exact ask_ends_finds (ofFound_fails logs found) horder s

/-- Finding positions makes the calls of the questions. -/
theorem find_cases (logs : List TopicPartition) (offset : Option Int) (since : Option Instant)
    (s : σ) :
    ∃ later, later.Sublist logs ∧
      Finds c q wanted (find c logs offset since) logs offset since s
        (Course.questions logs later offset since) := by
  cases since with
  | some t =>
      -- One question for the instant, and one for ends if the answer leaves logs out.
      rw [find_instant_eq]
      rcases Exchange.call_cases (readSteps c q wanted)
        (.offsetsForTimes (Entries.ofPairs (logs.map fun log => (log, t)))) rfl rfl s with
        hfails | ⟨answer, s₁, -, hcall⟩
      · exact ⟨[], List.nil_sublist logs, Or.inl (hfails.bind _ _)⟩
      · refine ⟨missing (answer.getD []) logs, missing_sublist _ _, ?_⟩
        rcases findRest_finds c q wanted logs (answer.getD []) offset t s₁ with
          hfails | ⟨positions, s', hrest, horder⟩
        · exact Or.inl (hcall.fails hfails)
        · exact Or.inr ⟨positions, s', hcall.bind hrest, horder⟩
  | none =>
      -- Without an instant, there is one question for an offset and none without.
      refine ⟨[], List.nil_sublist logs, ?_⟩
      cases offset with
      | some o =>
          exact ask_ends_finds (ofOffset_fails logs o)
            (fun ends positions h => inOrder_of_forEach h (Or.inr rfl)) s
      | none => exact Or.inr ⟨[], s, Exchange.Completes.pure _ s, rfl⟩

/-- Moving the consumer makes one call for each position until one fails. -/
theorem apply_cases (positions : Positions) (s : σ) :
    Exchange.Fails (readSteps c q wanted) (apply c positions) s (Course.seeks positions) ∨
      ∃ s', Exchange.Completes (readSteps c q wanted) (apply c positions) s
        (Course.seeks positions) () s' := by
  induction positions generalizing s with
  | nil => exact Or.inr ⟨s, Exchange.Completes.pure () s⟩
  | cons move rest ih =>
      rcases move with ⟨log, offset⟩
      have hnote := Exchange.Completes.note (readSteps c q wanted) (.seeking log offset) s
      rcases Exchange.call_cases (readSteps c q wanted) (.seek log offset) rfl rfl s with
        hfails | ⟨u, s₁, -, hcall⟩
      · exact Or.inl (hnote.fails (hfails.bind _ _))
      · rcases ih s₁ with hfails | ⟨s', hrest⟩
        · exact Or.inl (hnote.fails (hcall.fails hfails))
        · exact Or.inr ⟨s', hnote.bind (hcall.bind hrest)⟩

end Positions

namespace Reader

variable (r : Reader) (c : Consumer σ) (q : Query) (wanted : List FieldName)

/-- An exchange at the end of a read: a call of the plan fails, or the poll, which comes
    last, has an answer that can be shown. -/
def Settles (x : Exchange σ Page) (s : σ) (plan : List Event) : Prop :=
  Exchange.Fails (readSteps c q wanted) x s plan ∨
    ∃ page s' before batches s₁, Exchange.Completes (readSteps c q wanted) x s plan page s' ∧
      plan = before ++ [.poll r.pollTimeout q.limit] ∧
      Runs (readSteps c q wanted) s before none s₁ ∧
      c.poll r.pollTimeout q.limit s₁ = (.ok batches, s') ∧
      Page.ofBatches wanted batches = .ok page

variable {r c q wanted}

/-- What ends a read may come after calls that did not fail. -/
theorem Settles.bind {α : Type} {x : Exchange σ α} {f : α → Exchange σ Page} {s s₁ : σ}
    {plan more : List Event} {a : α}
    (hx : Exchange.Completes (readSteps c q wanted) x s plan a s₁)
    (hf : Settles r c q wanted (f a) s₁ more) :
    Settles r c q wanted (x >>= f) s (plan ++ more) := by
  rcases hf with hfails | ⟨page, s', before, batches, s₂, hf, rfl, hruns, hpoll⟩
  · exact Or.inl (hx.fails hfails)
  · have hfirst : Runs (readSteps c q wanted) s plan none s₁ := by
      rcases hx with ⟨es, -, -, hruns⟩
      exact hruns
    exact Or.inr ⟨page, s', plan ++ before, batches, s₂, hx.bind hf, (List.append_assoc _ _ _).symm,
      hfirst.append hruns, hpoll⟩

variable (r c q wanted)

/-- The end of a read: the poll, the page of what it returned, and a line in the log. -/
def takePage (count : Nat) : Exchange σ Page := do
  let page ← Exchange.ask (.poll r.pollTimeout q.limit) (c.poll r.pollTimeout q.limit)
    (Page.ofBatches wanted)
  Exchange.note (.pageRead page.size q.topic count)
  return page

/-- A read of selected logs, from taking them on. -/
def fetchFrom (since : Option Instant) (logs : List TopicPartition) : Exchange σ Page := do
  Exchange.call (.assign logs) (c.assign logs)
  let positions ← Positions.find c logs q.offset since
  Positions.apply c positions
  takePage r c q wanted logs.length

theorem fetch_eq (since : Option Instant) :
    r.fetch c q since wanted =
      (Exchange.ask (.partitionsOf q.topic) (c.partitionsOf q.topic)
        (fun available => Selection.logs q.topic available q.partition) >>=
          fetchFrom r c q wanted since) := by
  rw [fetch, Exchange.ask, bind_assoc]
  refine congrArg _ (funext fun available => congrArg _ (funext fun logs => ?_))
  simp only [fetchFrom, takePage, Exchange.ask, bind_assoc]

theorem takePage_settles (count : Nat) (s : σ) :
    Settles r c q wanted (takePage r c q wanted count) s [.poll r.pollTimeout q.limit] := by
  have hask := Exchange.ask_cases (readSteps c q wanted) (.poll r.pollTimeout q.limit)
    (Page.ofBatches wanted) rfl rfl s
  rw [takePage, ← List.append_nil [Event.poll r.pollTimeout q.limit]]
  rcases hask with hfails | ⟨batches, page, s', hpoll, hpage, hcall⟩
  · exact Or.inl (hfails.bind _ [])
  · have hnote := Exchange.Completes.note (readSteps c q wanted)
      (.pageRead page.size q.topic count) s'
    exact Or.inr ⟨page, s', [], batches, s,
      hcall.bind (hnote.bind (Exchange.Completes.pure page s')), rfl, Runs.none s, hpoll, hpage⟩

/-- Once the positions are there, the consumer is moved to them and polled. -/
theorem moved_settles (positions : Positions) (count : Nat) (s : σ) :
    Settles r c q wanted (Positions.apply c positions >>= fun _ => takePage r c q wanted count) s
      (Course.seeks positions ++ [.poll r.pollTimeout q.limit]) := by
  rcases Positions.apply_cases c q wanted positions s with hfails | ⟨s', hmoved⟩
  · exact Or.inl (hfails.bind _ _)
  · exact Settles.bind hmoved (takePage_settles r c q wanted count s')

/-- Selected logs are taken on, moved in order and polled. -/
theorem fetchFrom_settles (since : Option Instant) {available : Option (List Int)}
    {logs : List TopicPartition}
    (hlogs : Selection.logs q.topic available q.partition = .ok logs) (s : σ) :
    ∃ course : Course, course.Fits q since ∧ course.logs = logs ∧
      Settles r c q wanted (fetchFrom r c q wanted since logs) s
        ([.assign logs] ++ (Course.questions logs course.later q.offset since ++
          (Course.seeks course.moves ++ [.poll r.pollTimeout q.limit]))) := by
  -- Where a read ends before there are positions, its plan may go on with any in order.
  rcases exists_inOrder logs q.offset since with ⟨any, hany⟩
  rcases Exchange.call_cases (readSteps c q wanted) (.assign logs) rfl rfl s with
    hfails | ⟨u, s₁, -, hassign⟩
  · exact ⟨⟨logs, [], any⟩, Course.fits_of_inOrder hlogs (List.nil_sublist logs) hany, rfl,
      Or.inl (hfails.bind _ _)⟩
  · rcases Positions.find_cases c q wanted logs q.offset since s₁ with
      ⟨later, hlater, hfails | ⟨positions, s₂, hfind, horder⟩⟩
    · exact ⟨⟨logs, later, any⟩, Course.fits_of_inOrder hlogs hlater hany, rfl,
        Or.inl (hassign.fails (hfails.bind _ _))⟩
    · exact ⟨⟨logs, later, positions⟩, Course.fits_of_inOrder hlogs hlater horder, rfl,
        Settles.bind hassign (Settles.bind hfind
          (moved_settles r c q wanted positions logs.length s₂))⟩

/-- There is a course in order with the logs selected from the answer, if there are any. -/
theorem exists_course (since : Option Instant) (s : σ) :
    ∃ course : Course, course.Fits q since ∧
      ∀ available logs s₁, c.partitionsOf q.topic s = (.ok available, s₁) →
        Selection.logs q.topic available q.partition = .ok logs → course.logs = logs := by
  by_cases hselected : ∃ available logs s₁, c.partitionsOf q.topic s = (.ok available, s₁) ∧
      Selection.logs q.topic available q.partition = .ok logs
  · rcases hselected with ⟨available, logs, s₁, hanswer, hlogs⟩
    rcases exists_inOrder logs q.offset since with ⟨moves, hmoves⟩
    refine ⟨⟨logs, [], moves⟩, Course.fits_of_inOrder hlogs (List.nil_sublist logs) hmoves,
      fun available' logs' s' hanswer' hlogs' => ?_⟩
    rw [hanswer] at hanswer'
    cases hanswer'
    exact Except.ok.inj (hlogs.symm.trans hlogs')
  · rcases Course.exists_fits q since with ⟨any, hany⟩
    exact ⟨any, hany, fun available logs s₁ hanswer hlogs =>
      absurd ⟨available, logs, s₁, hanswer, hlogs⟩ hselected⟩

/-- The calls between making a consumer and closing it. -/
theorem fetch_settles (since : Option Instant) (s : σ) :
    ∃ course : Course, course.Fits q since ∧
      (∀ available logs s₁, c.partitionsOf q.topic s = (.ok available, s₁) →
        Selection.logs q.topic available q.partition = .ok logs → course.logs = logs) ∧
      Settles r c q wanted (r.fetch c q since wanted) s (course.plan r q since) := by
  have hask := Exchange.ask_cases (readSteps c q wanted) (.partitionsOf q.topic)
    (fun available => Selection.logs q.topic available q.partition) rfl rfl s
  rw [fetch_eq]
  rcases hask with hfails | ⟨available, logs, s₁, hanswer, hlogs, hcall⟩
  · rcases exists_course c q since s with ⟨any, hany, hlogs⟩
    exact ⟨any, hany, hlogs, Or.inl (hfails.bind _ _)⟩
  · -- The answer fixes the selected logs, and the rest of the course comes from them.
    rcases fetchFrom_settles r c q wanted since hlogs s₁ with ⟨course, hfits, rfl, hsettles⟩
    refine ⟨course, hfits, fun available' logs' s' hanswer' hlogs' => ?_,
      Settles.bind hcall hsettles⟩
    rw [hanswer] at hanswer'
    cases hanswer'
    exact Except.ok.inj (hlogs.symm.trans hlogs')

end Reader

namespace Failure

theorem not_unknown_fault (f : Fault) : ¬ (Failure.fault f).Unknown := by
  rintro (⟨topic, h⟩ | ⟨topic, filter, h⟩) <;> cases h

/-- An end that is not reported is no unknown partition. -/
theorem not_unknown_of_reported {asked : List TopicPartition}
    {ends : List (TopicPartition × Int)} {failure : Failure}
    (h : Positions.reported asked ends = .error failure) : ¬ failure.Unknown := by
  rw [Positions.reported] at h
  cases hends : asked.mapM (Positions.endOf ends) with
  | ok found =>
      rw [hends] at h
      cases h
  | error e =>
      rw [hends] at h
      cases h
      rcases mapM_eq_error hends with ⟨log, -, hlog⟩
      rw [Positions.endOf] at hlog
      cases hget : Entries.get? log ends with
      | some end? =>
          rw [hget] at hlog
          cases hlog
      | none =>
          rw [hget] at hlog
          cases hlog
          rintro (⟨topic, h⟩ | ⟨topic, filter, h⟩) <;> cases h

/-- A record that cannot be shown is no unknown partition. -/
theorem not_unknown_of_page {wanted : List FieldName}
    {batches : List (TopicPartition × List ConsumedRecord)} {failure : Failure}
    (h : Page.ofBatches wanted batches = .error failure) : ¬ failure.Unknown := by
  rw [Page.ofBatches] at h
  cases hitems : (batches.flatMap Prod.snd).mapM fun record =>
      (record.view wanted).mapError Failure.outOfRange with
  | ok items =>
      rw [hitems] at h
      cases h
  | error e =>
      rw [hitems] at h
      cases h
      rcases mapM_eq_error hitems with ⟨record, -, hrecord⟩
      cases hview : record.view wanted with
      | ok shown =>
          rw [hview] at hrecord
          cases hrecord
      | error e' =>
          rw [hview] at hrecord
          cases hrecord
          rintro (⟨topic, h⟩ | ⟨topic, filter, h⟩) <;> cases h

end Failure

/-- Only asking for the partitions can fail for want of a topic or a partition. -/
theorem partitionsOf_of_unknown {c : Consumer σ} {q : Query} {wanted : List FieldName}
    {e : Event} {failure : Failure} {s s' : σ}
    (h : readSteps c q wanted e s = (.error failure, s')) (hunknown : failure.Unknown) :
    ∃ topic, e = .partitionsOf topic := by
  -- Every other call fails with a fault, or has a use that does not name topics.
  have hrefuted {α β : Type} {action : Answer σ α} {use : α → Except Failure β}
      (hused : action.used use s = (.error failure, s'))
      (huse : ∀ a, use a = .error failure → ¬ failure.Unknown) : False := by
    rcases Answer.used_eq_error hused with ⟨f, rfl⟩ | ⟨a, ha⟩
    · exact Failure.not_unknown_fault f hunknown
    · exact huse a ha hunknown
  cases e with
  | partitionsOf topic => exact ⟨topic, rfl⟩
  | assign logs => exact (hrefuted h fun a ha => nomatch ha).elim
  | offsetsForTimes asked => exact (hrefuted h fun a ha => nomatch ha).elim
  | endOffsets asked => exact (hrefuted h fun ends => Failure.not_unknown_of_reported).elim
  | seek log offset => exact (hrefuted h fun a ha => nomatch ha).elim
  | poll timeout limit => exact (hrefuted h fun batches => Failure.not_unknown_of_page).elim
  | _ => cases h

/-- The partitions of the topic are asked for first and not again. -/
theorem Course.partitionsOf_first {course : Course} {r : Reader} {q : Query}
    {since : Option Instant} {before : List Event} {topic : String}
    (h : before ++ [.partitionsOf topic] <+: course.plan r q since) :
    before = [] ∧ topic = q.topic := by
  cases before with
  | nil =>
      have hhead := (List.cons_prefix_cons.mp h).1
      cases hhead
      exact ⟨rfl, rfl⟩
  | cons e rest =>
      -- Otherwise it would be among the calls after the first, and none of them is one.
      have hrest : rest ++ [.partitionsOf topic] <+: _ := (List.cons_prefix_cons.mp h).2
      have hmem := hrest.subset (List.mem_append_right rest List.mem_cons_self)
      have hquestions : .partitionsOf topic ∉
          Course.questions course.logs course.later q.offset since := by
        cases since <;> rw [Course.questions] <;> split_ifs <;> simp
      simp [Course.seeks, hquestions] at hmem

/-- The calls between making a consumer and closing it, as they were made. -/
theorem Reader.fetch_fetched (r : Reader) (c : Consumer σ) (q : Query) (since : Option Instant)
    (wanted : List FieldName) (s : σ) :
    ∃ es first s', (r.fetch c q since wanted).Yields s first s' es ∧
      Fetched r c q since wanted s (calls es) first s' := by
  rcases fetch_settles r c q wanted since s with ⟨course, hfits, hlogs, hfails | hanswered⟩
  · rcases hfails with ⟨es, failure, s', hyields, hplan, hruns⟩
    refine ⟨es, _, s', hyields, ⟨course, hfits, hlogs, hplan, Halts.failed hplan hruns⟩, ?_⟩
    intro failure' heq hunknown
    cases heq
    -- The call that failed is the last, and it asked for the partitions.
    rcases hruns.last_fails with ⟨before, e, s₁, hmade, hlast⟩
    rcases partitionsOf_of_unknown hlast hunknown with ⟨topic, rfl⟩
    rw [hmade] at hplan ⊢
    rcases Course.partitionsOf_first hplan with ⟨rfl, rfl⟩
    rfl
  · rcases hanswered with ⟨page, s', before, batches, s₁, ⟨es, hyields, hmade, -⟩, hplan, hruns,
      hpoll, hpage⟩
    refine ⟨es, _, s', hyields, ⟨course, hfits, hlogs, ?_, ?_⟩, fun failure heq => nomatch heq⟩
    · exact hmade ▸ List.prefix_refl _
    · rw [hmade]
      exact Halts.answered hplan hruns hpoll hpage

namespace Reader

/-- What is checked is the query, and then the settings, of which the number of records asked
    for is no part. -/
theorem checks_eq (r : Reader) (q : Query) :
    r.checks q = (q.prepare >>= fun prepared =>
      ((Connection.options r.settings).mapError .badVersion).map fun _ => prepared) := by
  rw [checks]
  cases q.prepare with
  | error e => rfl
  | ok prepared =>
      simp only [Connection.consumer]
      cases Connection.options r.settings <;> rfl

/-- Reading is checking, and then making a consumer, fetching, and closing it. -/
theorem read_eq (r : Reader) (c : Consumer σ) (q : Query) :
    r.read c q = (Exchange.ofExcept (r.checks q) >>= fun checked =>
      Exchange.call (.consumerNew (some q.limit)) (c.create (some q.limit)) >>= fun _ =>
        Exchange.closing (r.fetch c q checked.1 checked.2)
          (Exchange.call .consumerClose c.close)) := by
  rw [read, checks]
  cases q.prepare with
  | error e => rfl
  | ok prepared =>
      cases Connection.consumer r.settings (some q.limit) with
      | error e => rfl
      | ok options => rfl

/-- What a read comes to with a consumer that was made. -/
theorem closing_yields {r : Reader} {c : Consumer σ} {q : Query} {since : Option Instant}
    {wanted : List FieldName} {first : Except Failure Page} {last : Except Fault Unit}
    {s₀ s₁ s₂ : σ} {es : List Event} (hfetch : (r.fetch c q since wanted).Yields s₀ first s₁ es)
    (hclose : c.close s₁ = (last, s₂)) :
    (Exchange.closing (r.fetch c q since wanted)
      (Exchange.call .consumerClose c.close)).Yields s₀ (closed first last) s₂
        (es ++ [.consumerClose]) := by
  cases last with
  | ok u => exact Exchange.Yields.closing_ok hfetch (Exchange.Yields.call_ok .consumerClose hclose)
  | error f =>
      exact Exchange.Yields.closing_error hfetch (Exchange.Yields.call_error .consumerClose hclose)

/-- A query that fails a check reads nothing and calls nothing. -/
theorem read_unchecked {r : Reader} {q : Query} {e : Failure} (hchecks : r.checks q = .error e)
    (c : Consumer σ) (s : σ) : (r.read c q).Yields s (.error e) s [] := by
  rw [read_eq, hchecks]
  exact Exchange.Yields.bind_error (Exchange.Yields.ofExcept (.error e) s)

/-- A query that passes the checks, with a consumer that cannot be made, and with one that can. -/
theorem read_uncreated {r : Reader} {c : Consumer σ} {q : Query}
    {checked : Option Instant × List FieldName} (hchecks : r.checks q = .ok checked)
    {s s₀ : σ} {f : Fault} (hcreate : c.create (some q.limit) s = (.error f, s₀)) :
    (r.read c q).Yields s (.error (.fault f)) s₀ [.consumerNew (some q.limit)] := by
  rw [read_eq, hchecks]
  exact Exchange.Yields.bind_ok (Exchange.Yields.ofExcept (.ok checked) s)
    (Exchange.Yields.bind_error (Exchange.Yields.call_error _ hcreate))

theorem read_created {r : Reader} {c : Consumer σ} {q : Query}
    {checked : Option Instant × List FieldName} (hchecks : r.checks q = .ok checked)
    {s s₀ s' : σ} (hcreate : c.create (some q.limit) s = (.ok (), s₀))
    {result : Except Failure Page} {es : List Event}
    (hrest : (Exchange.closing (r.fetch c q checked.1 checked.2)
      (Exchange.call .consumerClose c.close)).Yields s₀ result s' es) :
    (r.read c q).Yields s result s' (.consumerNew (some q.limit) :: es) := by
  rw [read_eq, hchecks]
  exact Exchange.Yields.bind_ok (Exchange.Yields.ofExcept (.ok checked) s)
    (Exchange.Yields.bind_ok (Exchange.Yields.call_ok _ hcreate) hrest)

/-- The protocol of a read, for every query, every consumer and every world. -/
theorem read_protocol (r : Reader) (c : Consumer σ) (q : Query) (s : σ) :
    ∃ result s' events, (r.read c q).run s = (result, ⟨s', events⟩) ∧
      Reads r c q s (calls events) result s' := by
  cases hchecks : r.checks q with
  | error e =>
      have hread : (r.read c q).Yields s (.error e) s [] := by
        rw [read_eq, hchecks]
        exact Exchange.Yields.bind_error (Exchange.Yields.ofExcept (.error e) s)
      exact ⟨_, _, _, hread.run_eq, Reads.unchecked hchecks⟩
  | ok checked =>
      rcases checked with ⟨since, wanted⟩
      have hstart := Exchange.Yields.ofExcept (.ok (since, wanted)) s
      rcases hcreate : c.create (some q.limit) s with ⟨answer, s₀⟩
      cases answer with
      | error f =>
          have hread : (r.read c q).Yields s (.error (.fault f)) s₀
              ([] ++ [.consumerNew (some q.limit)]) := by
            rw [read_eq, hchecks]
            refine Exchange.Yields.bind_ok hstart (Exchange.Yields.bind_error ?_)
            exact Exchange.Yields.call_error _ hcreate
          exact ⟨_, _, _, hread.run_eq, Reads.uncreated hchecks hcreate⟩
      | ok u =>
          -- There is a consumer now, so closing it is the last call on every path.
          rcases fetch_fetched r c q since wanted s₀ with ⟨es, first, s₁, hfetch, hfetched⟩
          rcases hclose : c.close s₁ with ⟨last, s₂⟩
          have hread : (r.read c q).Yields s (closed first last) s₂
              ([] ++ ([.consumerNew (some q.limit)] ++ (es ++ [.consumerClose]))) := by
            rw [read_eq, hchecks]
            exact Exchange.Yields.bind_ok hstart (Exchange.Yields.bind_ok
              (Exchange.Yields.call_ok (.consumerNew (some q.limit)) hcreate)
              (closing_yields hfetch hclose))
          refine ⟨_, _, _, hread.run_eq, ?_⟩
          rw [List.nil_append, calls_append, calls_append]
          exact Reads.created hchecks hcreate hfetched hclose

end Reader

end RecordGateway
