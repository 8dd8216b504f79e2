import Mathlib.Data.List.Basic
import Mathlib.Data.List.Find
import RecordGateway.Proofs.Partition.Order
import RecordGateway.Proofs.Reading.Protocol

/-!
# Which Questions, Which Positions, Which Moves

Finding positions and moving the consumer to them, for every answer that a consumer may give.

What should happen is told here without the exchange, by looking up one log after another. An answer
about an instant may be missing as a whole, it may leave logs out, and it may hold null for a log;
all three say that nothing was found in the log, and an offset of zero does not. The end of a log is
needed if nothing was found in it, or if an offset is asked for, and then of every log. So the
questions can be told from the logs, and the positions from the answers, log by log.

Positions come for all logs or for none. The first log whose position is not known is the failure,
and then the consumer has been asked but not moved. If all are known, it is moved once for each log,
in the order of the logs. Only what is looked up matters, so whatever else is in an answer does not.

## Main definitions

* `Positions.foundIn`: the offset found in a log.
* `Positions.beginning`: where a log has to begin.
* `Positions.timesAsked`, `Positions.endsAsked`, `Positions.asked`: what the consumer is asked.
* `Positions.known`: a position that has to be known.
* `Positions.begun`: all positions, or the first failure.
* `Positions.moving`: the moves to positions.
* `Positions.AgreeOn`: answers that agree on the logs.
* `Answered`: the answer to a question that may not be asked.
* `Consumer.scripted`: a consumer with fixed answers.

## Theorems

* `Positions.forEach_known`: positions of distinct logs, in their order.
* `Positions.find_yields`: finding positions asks these questions and gives these positions.
* `Positions.apply_yields`: moving the consumer makes these moves.
* `Positions.found_and_applied`: both together.
-/

namespace RecordGateway

variable {σ : Type}

/-- A question that is asked is answered, and the world moves on. One that is not asked leaves the
    world as it is. -/
def Answered {α β : Type} (ask : α → Answer σ β) (question : Option α) (answer : β) (s s' : σ) :
    Prop :=
  match question with
  | some q => ask q s = (.ok answer, s')
  | none => s' = s

namespace Positions

/-- The offset found in a log: there is an answer, it has the log, and what it has is not null. -/
def foundIn (found : Option (List (TopicPartition × Option Int))) (log : TopicPartition) :
    Option Int :=
  (found.bind (Entries.get? log)).join

/-- Where a log has to begin, as far as the answers tell. For an instant, whatever the offset, this
    is the offset found, or else the end. For an offset, it is that offset or the end, whichever
    comes first. -/
def beginning (offset : Option Int) (since : Option Instant)
    (found : Option (List (TopicPartition × Option Int))) (ends : List (TopicPartition × Int))
    (log : TopicPartition) : Option Int :=
  match since, offset with
  | some _, _ => (foundIn found log).or (Entries.get? log ends)
  | none, some o => (Entries.get? log ends).map (min o)
  | none, none => none

/-- What is asked about an instant: all logs, each with it. -/
def timesAsked (logs : List TopicPartition) (since : Option Instant) :
    Option (List (TopicPartition × Instant)) :=
  since.map fun t => logs.map fun log => (log, t)

/-- The logs whose ends are asked: for an instant those in which nothing was found, if there are
    any, and for an offset all. -/
def endsAsked (logs : List TopicPartition) (offset : Option Int) (since : Option Instant)
    (found : Option (List (TopicPartition × Option Int))) : Option (List TopicPartition) :=
  match since, offset with
  | some _, _ =>
    let rest := logs.filter fun log => (foundIn found log).isNone
    if rest.isEmpty then none else some rest
  | none, some _ => some logs
  | none, none => none

/-- The questions, each asked once. -/
def asked (logs : List TopicPartition) (offset : Option Int) (since : Option Instant)
    (found : Option (List (TopicPartition × Option Int))) : List Event :=
  (timesAsked logs since).toList.map .offsetsForTimes ++
    (endsAsked logs offset since found).toList.map .endOffsets

/-- The positions: none without an instant and an offset, and otherwise one for each log, in their
    order. The first log whose position is not known is the failure. -/
def begun (logs : List TopicPartition) (offset : Option Int) (since : Option Instant)
    (found : Option (List (TopicPartition × Option Int))) (ends : List (TopicPartition × Int)) :
    Except Failure Positions :=
  if since = none ∧ offset = none then .ok []
  else
    match logs.find? fun log => (beginning offset since found ends log).isNone with
    | some log => .error (.missingEnd log)
    | none => .ok (logs.filterMap fun log =>
        (beginning offset since found ends log).map fun position => (log, position))

/-- The moves to positions, each noted first. -/
def moving (positions : Positions) : List Event :=
  positions.flatMap fun move => [.notice (.seeking move.1 move.2), .seek move.1 move.2]

/-- A position that has to be known. -/
def known (log : TopicPartition) : Option Int → Except Failure Int
  | some position => .ok position
  | none => .error (.missingEnd log)

/-- The end of a log has to be known. -/
theorem endOf_eq_known (ends : List (TopicPartition × Int)) (log : TopicPartition) :
    endOf ends log = known log (Entries.get? log ends) := by
  rw [endOf]
  cases Entries.get? log ends <;> rfl

/-- An answer that is missing as a whole is like an empty one. -/
theorem foundFor_eq_foundIn (found : Option (List (TopicPartition × Option Int)))
    (log : TopicPartition) : foundFor (found.getD []) log = foundIn found log := by
  cases found <;> rfl

/-- Collecting positions stops at the first log whose position is not known. -/
theorem mapM_known {position : TopicPartition → Except Failure Int}
    {place : TopicPartition → Option Int} {logs : List TopicPartition}
    (h : ∀ log ∈ logs, position log = known log (place log)) :
    (logs.mapM fun log => (position log).map fun offset => (log, offset)) =
      match logs.find? fun log => (place log).isNone with
      | some log => .error (.missingEnd log)
      | none => .ok (logs.filterMap fun log => (place log).map fun offset => (log, offset)) := by
  induction logs with
  | nil => rfl
  | cons log rest ih =>
      rw [List.forall_mem_cons] at h
      rw [List.mapM_cons, h.1, ih h.2, List.find?_cons, List.filterMap_cons]
      -- The first log decides: it is the failure, or its position comes before the others.
      cases place log with
      | none => rfl
      | some position =>
          cases rest.find? fun log => (place log).isNone <;> rfl

/-- If every position is known, the logs of the positions are the logs. -/
theorem keys_placed {place : TopicPartition → Option Int} {logs : List TopicPartition}
    (h : (logs.find? fun log => (place log).isNone) = none) :
    (logs.filterMap fun log => (place log).map fun position => (log, position)).map Prod.fst =
      logs := by
  induction logs with
  | nil => rfl
  | cons log rest ih =>
      rw [List.find?_eq_none, List.forall_mem_cons] at h
      rw [List.filterMap_cons]
      cases hplace : place log with
      | none =>
          rw [hplace] at h
          exact absurd rfl h.1
      | some position =>
          rw [Option.map_some, List.map_cons, ih (List.find?_eq_none.mpr h.2)]

/-- Positions of distinct logs, worked out one after another: they stand in the order of the logs,
    and the first that is not known is the failure. -/
theorem forEach_known {logs : List TopicPartition} (hlogs : logs.Nodup)
    {position : TopicPartition → Except Failure Int} {place : TopicPartition → Option Int}
    (h : ∀ log ∈ logs, position log = known log (place log)) :
    forEach logs position =
      match logs.find? fun log => (place log).isNone with
      | some log => .error (.missingEnd log)
      | none => .ok (logs.filterMap fun log =>
          (place log).map fun position => (log, position)) := by
  rw [forEach, mapM_known h]
  cases hfirst : logs.find? fun log => (place log).isNone with
  | some log => rfl
  | none =>
      -- The logs are distinct, so that no position takes the place of another.
      have hkeys := keys_placed hfirst
      exact congrArg Except.ok (Entries.ofPairs_of_nodup (hkeys.symm ▸ hlogs))

variable {logs : List TopicPartition} {found : Option (List (TopicPartition × Option Int))}
  {ends : List (TopicPartition × Int)}

/-- Positions for an instant, if the ends are reported where nothing was found. -/
theorem ofFound_eq_begun (hlogs : logs.Nodup) (offset : Option Int) (t : Instant)
    {reported : List (TopicPartition × Int)}
    (hreported : ∀ log ∈ logs, foundIn found log = none →
      Entries.get? log reported = Entries.get? log ends) :
    ofFound logs (found.getD []) reported = begun logs offset (some t) found ends := by
  rw [ofFound_eq, begun, if_neg fun h => Option.some_ne_none t h.1]
  refine forEach_known hlogs fun log hlog => ?_
  rw [foundOrEnd, foundFor_eq_foundIn, beginning]
  -- Where something was found, no end is looked at.
  cases hlooked : foundIn found log with
  | some position => rfl
  | none =>
      rw [Option.none_or, ← hreported log hlog hlooked]
      exact endOf_eq_known reported log

/-- Positions for an offset. -/
theorem ofOffset_eq_begun (hlogs : logs.Nodup) (o : Int) :
    ofOffset logs o ends = begun logs (some o) none found ends := by
  rw [ofOffset, begun, if_neg fun h => Option.some_ne_none o h.2]
  refine forEach_known hlogs fun log _ => ?_
  rw [endOf_eq_known, beginning]
  cases Entries.get? log ends with
  | none => rfl
  | some e =>
      -- Beyond the end the end is taken, which is what the lesser of the two is.
      change Except.ok (if o ≤ e then o else e) = Except.ok (min o e)
      rw [Int.min_def]

variable {c : Consumer σ} {s s₁ s₂ : σ}

/-- What is left to do after the answer about an instant. -/
theorem findRest_yields (hlogs : logs.Nodup) (offset : Option Int) (t : Instant)
    (hends : Answered c.endOffsets (endsAsked logs offset (some t) found) ends s₁ s₂) :
    (findRest c logs (found.getD [])).Yields s₁ (begun logs offset (some t) found ends) s₂
      ((endsAsked logs offset (some t) found).toList.map .endOffsets) := by
  have hrest : missing (found.getD []) logs =
      logs.filter fun log => (foundIn found log).isNone := by
    simp only [missing, foundFor_eq_foundIn]
  rw [findRest, hrest]
  rw [endsAsked] at hends ⊢
  by_cases hall : (logs.filter fun log => (foundIn found log).isNone).isEmpty
  · -- Something was found in every log, so no end is needed, whatever would be answered.
    have hfound : ∀ log ∈ logs, foundIn found log = none →
        Entries.get? log [] = Entries.get? log ends := by
      intro log hlog hnone
      have hmem : log ∈ logs.filter fun log => (foundIn found log).isNone :=
        List.mem_filter.mpr ⟨hlog, Option.isNone_iff_eq_none.mpr hnone⟩
      rw [List.isEmpty_iff.mp hall] at hmem
      cases hmem
    simp only [if_pos hall] at hends ⊢
    rw [Answered] at hends
    subst hends
    rw [ofFound_eq_begun hlogs offset t hfound]
    exact Exchange.Yields.ofExcept _ _
  · simp only [if_neg hall] at hends ⊢
    rw [← ofFound_eq_begun hlogs offset t fun _ _ _ => rfl]
    exact Exchange.Yields.bind_ok (Exchange.Yields.call_ok _ hends)
      (Exchange.Yields.ofExcept _ s₂)

/-- Finding positions asks the questions, and gives the positions that the answers tell. -/
theorem find_yields (hlogs : logs.Nodup) (offset : Option Int) (since : Option Instant)
    (hfound : Answered c.offsetsForTimes (timesAsked logs since) found s s₁)
    (hends : Answered c.endOffsets (endsAsked logs offset since found) ends s₁ s₂) :
    (find c logs offset since).Yields s (begun logs offset since found ends) s₂
      (asked logs offset since found) := by
  cases since with
  | some t =>
      -- The logs are distinct, so each is asked about once.
      have hnew : Entries.ofPairs (logs.map fun log => (log, t)) = logs.map fun log => (log, t) :=
        Entries.ofPairs_of_nodup ((Entries.keys_map (fun _ => t) logs).symm ▸ hlogs)
      rw [find_instant_eq, hnew]
      exact Exchange.Yields.bind_ok (Exchange.Yields.call_ok _ hfound)
        (findRest_yields hlogs offset t hends)
  | none =>
      -- Nothing is asked about an instant, so the world is the one before.
      have hworld : s₁ = s := hfound
      subst hworld
      cases offset with
      | some o =>
          have hasked : asked logs (some o) none found = [.endOffsets logs] ++ [] := rfl
          rw [hasked, ← ofOffset_eq_begun hlogs o]
          exact Exchange.Yields.bind_ok (Exchange.Yields.call_ok _ hends)
            (Exchange.Yields.ofExcept _ s₂)
      | none =>
          have hstay : s₂ = s₁ := hends
          subst hstay
          exact Exchange.Yields.pure [] s₂

/-- Moving the consumer makes the moves, if it lets itself be moved. -/
theorem apply_yields (hseek : ∀ log position s, ∃ s', c.seek log position s = (.ok (), s'))
    (positions : Positions) (s : σ) :
    ∃ s', (apply c positions).Yields s (.ok ()) s' (moving positions) := by
  induction positions generalizing s with
  | nil => exact ⟨s, Exchange.Yields.pure () s⟩
  | cons move rest ih =>
      rcases move with ⟨log, position⟩
      rcases hseek log position s with ⟨s₁, hmoved⟩
      rcases ih s₁ with ⟨s', hrest⟩
      have hmoves : moving ((log, position) :: rest) =
          [.notice (.seeking log position)] ++ ([.seek log position] ++ moving rest) := rfl
      rw [hmoves]
      exact ⟨s', Exchange.Yields.bind_ok (Exchange.Yields.note (.seeking log position) s)
        (Exchange.Yields.bind_ok (Exchange.Yields.call_ok (.seek log position) hmoved) hrest)⟩

/-- The positions stand in the order of the logs. -/
theorem keys_begun {offset : Option Int} {since : Option Instant} {positions : Positions}
    (h : begun logs offset since found ends = .ok positions) :
    positions.map Prod.fst = if since = none ∧ offset = none then [] else logs := by
  rw [begun] at h
  -- Without an offset and an instant no log has to begin anywhere.
  by_cases hneither : since = none ∧ offset = none
  · rw [if_pos hneither] at h ⊢
    cases h
    rfl
  · rw [if_neg hneither] at h ⊢
    cases hfirst : logs.find? fun log => (beginning offset since found ends log).isNone with
    | some log =>
        rw [hfirst] at h
        cases h
    | none =>
        rw [hfirst] at h
        cases h
        exact keys_placed hfirst

/-- Answers that agree on the logs. -/
def AgreeOn (logs : List TopicPartition)
    (found found' : Option (List (TopicPartition × Option Int)))
    (ends ends' : List (TopicPartition × Int)) : Prop :=
  ∀ log ∈ logs, foundIn found log = foundIn found' log ∧
    Entries.get? log ends = Entries.get? log ends'

variable {found' : Option (List (TopicPartition × Option Int))}
  {ends' : List (TopicPartition × Int)}

/-- The positions depend on the answers for the logs. -/
theorem begun_congr (h : AgreeOn logs found found' ends ends') (offset : Option Int)
    (since : Option Instant) :
    begun logs offset since found ends = begun logs offset since found' ends' := by
  -- Where a log begins is told by the answers for this log.
  have hplaces : ∀ log ∈ logs,
      beginning offset since found ends log = beginning offset since found' ends' log := by
    intro log hlog
    rcases h log hlog with ⟨hfound, hends⟩
    unfold beginning
    rw [hfound, hends]
  have hfirst : (logs.find? fun log => (beginning offset since found ends log).isNone) =
      logs.find? fun log => (beginning offset since found' ends' log).isNone :=
    List.find?_congr fun log hlog => congrArg Option.isNone (hplaces log hlog)
  have hall : (logs.filterMap fun log =>
        (beginning offset since found ends log).map fun position => (log, position)) =
      logs.filterMap fun log =>
        (beginning offset since found' ends' log).map fun position => (log, position) :=
    List.filterMap_congr fun log hlog => by rw [hplaces log hlog]
  rw [begun, begun, hfirst, hall]

/-- So do the questions. -/
theorem asked_congr (h : AgreeOn logs found found' ends ends') (offset : Option Int)
    (since : Option Instant) :
    asked logs offset since found = asked logs offset since found' := by
  have hrest : (logs.filter fun log => (foundIn found log).isNone) =
      logs.filter fun log => (foundIn found' log).isNone :=
    List.filter_congr fun log hlog => congrArg Option.isNone (h log hlog).1
  unfold asked endsAsked
  rw [hrest]

/-- Finding positions and moving the consumer to them, for distinct logs and a consumer that answers
    the questions it is asked and lets itself be moved. For an instant it is asked once about all
    logs, and once for the ends of those in which nothing was found, in order, if there are any; for
    an offset alone it is asked once for all ends; otherwise it is asked nothing. The positions
    stand in the order of the logs, each where its log has to begin, and the consumer is moved once
    to each of them, in that order. If a position is not known, the first such log is the failure
    and the consumer is not moved at all. What the answers say of other logs does not matter. -/
theorem found_and_applied (hlogs : logs.Nodup) (offset : Option Int) (since : Option Instant)
    (hfound : Answered c.offsetsForTimes (timesAsked logs since) found s s₁)
    (hends : Answered c.endOffsets (endsAsked logs offset since found) ends s₁ s₂)
    (hseek : ∀ log position s, ∃ s', c.seek log position s = (.ok (), s')) :
    (find c logs offset since).run s =
      (begun logs offset since found ends, ⟨s₂, asked logs offset since found⟩) ∧
    (∃ s₃, (find c logs offset since >>= apply c).run s =
      match begun logs offset since found ends with
      | .ok positions => (.ok (), ⟨s₃, asked logs offset since found ++ moving positions⟩)
      | .error e => (.error e, ⟨s₂, asked logs offset since found⟩)) ∧
    (∀ positions, begun logs offset since found ends = .ok positions →
      positions.map Prod.fst = if since = none ∧ offset = none then [] else logs) ∧
    ∀ found' ends', AgreeOn logs found found' ends ends' →
      begun logs offset since found ends = begun logs offset since found' ends' ∧
        asked logs offset since found = asked logs offset since found' := by
  have hfind := find_yields hlogs offset since hfound hends
  refine ⟨hfind.run_eq, ?_, fun positions h => keys_begun h,
    fun found' ends' h => ⟨begun_congr h offset since, asked_congr h offset since⟩⟩
  cases hbegun : begun logs offset since found ends with
  -- A position that is not known is a failure before the first move.
  | error e =>
      rw [hbegun] at hfind
      exact ⟨s₂, (Exchange.Yields.bind_error hfind).run_eq⟩
  | ok positions =>
      rw [hbegun] at hfind
      rcases apply_yields hseek positions s₂ with ⟨s₃, happly⟩
      exact ⟨s₃, (Exchange.Yields.bind_ok hfind happly).run_eq⟩

end Positions

/-- A consumer with fixed answers about instants and ends. -/
def Consumer.scripted (found : Option (List (TopicPartition × Option Int)))
    (ends : List (TopicPartition × Int)) : Consumer Unit where
  create _ s := (.ok (), s)
  partitionsOf _ s := (.ok none, s)
  assign _ s := (.ok (), s)
  offsetsForTimes _ s := (.ok found, s)
  endOffsets _ s := (.ok ends, s)
  seek _ _ s := (.ok (), s)
  poll _ _ s := (.ok [], s)
  close s := (.ok (), s)

namespace Positions

/-- An instant of zero and an offset beside it, logs out of order, one found at zero, one found as
    null and one not in the answer, and both answers with a log that nobody asked for. -/
theorem found_and_applied_mixed :
    let logs : List TopicPartition := [⟨"t", 2⟩, ⟨"t", 0⟩, ⟨"t", 1⟩]
    let found := some [(⟨"t", 0⟩, some 0), (⟨"t", 9⟩, some 4), (⟨"t", 1⟩, none)]
    let ends := [(⟨"t", 1⟩, 5), (⟨"t", 2⟩, 0), (⟨"t", 9⟩, 3)]
    let c := Consumer.scripted found ends
    logs.Nodup ∧
    Answered c.offsetsForTimes (timesAsked logs (some 0)) found () () ∧
    Answered c.endOffsets (endsAsked logs (some 3) (some 0) found) ends () () ∧
    (∀ log position s, ∃ s', c.seek log position s = (.ok (), s')) ∧
    (find c logs (some 3) (some 0) >>= apply c).run () =
      (.ok (), ⟨(), [.offsetsForTimes [(⟨"t", 2⟩, 0), (⟨"t", 0⟩, 0), (⟨"t", 1⟩, 0)],
        .endOffsets [⟨"t", 2⟩, ⟨"t", 1⟩],
        .notice (.seeking ⟨"t", 2⟩ 0), .seek ⟨"t", 2⟩ 0,
        .notice (.seeking ⟨"t", 0⟩ 0), .seek ⟨"t", 0⟩ 0,
        .notice (.seeking ⟨"t", 1⟩ 5), .seek ⟨"t", 1⟩ 5]⟩) := by
  intro logs found ends c
  have hlogs : logs.Nodup := by decide
  have hfound : Answered c.offsetsForTimes (timesAsked logs (some 0)) found () () := rfl
  have hends : Answered c.endOffsets (endsAsked logs (some 3) (some 0) found) ends () () := rfl
  have hseek : ∀ log position s, ∃ s', c.seek log position s = (.ok (), s') :=
    fun _ _ s => ⟨s, rfl⟩
  rcases found_and_applied hlogs (some 3) (some 0) hfound hends hseek with ⟨-, ⟨s₃, hrun⟩, -, -⟩
  exact ⟨hlogs, hfound, hends, hseek, hrun⟩

end Positions

end RecordGateway
