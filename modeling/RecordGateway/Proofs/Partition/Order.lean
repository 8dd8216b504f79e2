import Mathlib.Tactic.SplitIfs
import RecordGateway.Partition.Positions
import RecordGateway.Partition.Selection
import RecordGateway.Proofs.Entries

/-!
# Selected Partitions and Their Positions

What a read makes of the answers about partitions before it moves the consumer.

Two orders meet here. The selected logs are sorted by id, repeats kept, and the
positions come from a mapping, in the order in which keys were first set. That the
consumer is moved in ascending order of ids follows from both: the keys of a mapping
are a sublist of the keys that were set, so they are sorted as well, and each of them
is there once.

## Main definitions

* `TopicPartition.before`: a log whose partition has the lesser id.
* `Selection.selected`: the ids that a filter lets through.
* `Positions.reported`: whether all ends that were asked for were reported.
* `Positions.foundOrEnd`: the position of a log for an instant.

## Theorems

* `mapM_eq_ok_iff`, `mapM_eq_error`: collecting answers, the first failure counts.
* `mapM_isOk_iff`: all answers are there exactly if each is.
* `Selection.logs_eq`: which logs are selected.
* `Selection.logs_pairwise`: the selected logs are in ascending order of ids.
* `Positions.forEach_eq_ok`, `Positions.forEach_eq_error`: one position for each log.
* `Positions.ofFound_fails`, `Positions.ofOffset_fails`: an end is not reported.
* `Positions.pairwise_before`: positions are in ascending order of ids.
-/

namespace RecordGateway

variable {ε α β : Type}

/-- Collecting answers succeeds exactly if all of them are there. -/
theorem mapM_eq_ok_iff {f : α → Except ε β} {xs : List α} {ys : List β} :
    xs.mapM f = .ok ys ↔ xs.map f = ys.map .ok := by
  induction xs generalizing ys with
  | nil =>
      constructor
      · intro h
        cases h
        rfl
      · intro h
        rw [List.map_eq_nil_iff.mp h.symm]
        rfl
  | cons x rest ih =>
      rw [List.mapM_cons, List.map_cons]
      -- The list of answers stops at the first failure, while the map goes on; so a
      -- failure at the head or in the rest refutes both sides.
      cases hx : f x with
      | error e =>
          constructor
          · intro h
            cases h
          · intro h
            cases ys <;> cases h
      | ok y =>
          cases hrest : rest.mapM f with
          | error e =>
              constructor
              · intro h
                cases h
              · intro h
                cases ys with
                | nil => cases h
                | cons y' ys' =>
                    rw [List.map_cons, List.cons.injEq] at h
                    rw [ih.mpr h.2] at hrest
                    cases hrest
          | ok ys' =>
              rw [ih.mp hrest]
              constructor
              · intro h
                cases h
                rfl
              · intro h
                have hinj : y :: ys' = ys :=
                  (List.map_inj_right fun _ _ => Except.ok.inj).mp h
                rw [← hinj]
                rfl

/-- Collecting answers where a test asks for them fails just as collecting all of them
    does, if the others are there. -/
theorem mapM_filter_map {γ : Type} {f : α → Except ε β} {g : α → Except ε γ} {test : α → Bool}
    {xs : List α} (hasked : ∀ x, test x = true → (f x).map (fun _ => ()) = (g x).map fun _ => ())
    (hothers : ∀ x, test x = false → (g x).map (fun _ => ()) = .ok ()) :
    ((xs.filter test).mapM f).map (fun _ => ()) = (xs.mapM g).map fun _ => () := by
  induction xs with
  | nil => rfl
  | cons x rest ih =>
      rw [List.mapM_cons]
      cases htest : test x with
      | true =>
          -- The element is asked on both sides, with the same status.
          have hx := hasked x htest
          rw [List.filter_cons_of_pos htest, List.mapM_cons]
          cases hf : f x <;> cases hg : g x <;> rw [hf, hg] at hx <;> cases hx
          · rfl
          · cases hfs : (rest.filter test).mapM f <;> cases hgs : rest.mapM g <;>
              rw [hfs, hgs] at ih <;> cases ih <;> rfl
      | false =>
          -- The element is left out on one side, and there on the other.
          have hx := hothers x htest
          rw [List.filter_cons_of_neg (by rw [htest]; decide)]
          cases hg : g x with
          | error e =>
              rw [hg] at hx
              cases hx
          | ok y =>
              rw [ih]
              cases rest.mapM g <;> rfl

/-- Collecting answers fails with a failure of one of them. -/
theorem mapM_eq_error {f : α → Except ε β} {xs : List α} {e : ε} (h : xs.mapM f = .error e) :
    ∃ x ∈ xs, f x = .error e := by
  induction xs with
  | nil => cases h
  | cons x rest ih =>
      rw [List.mapM_cons] at h
      cases hx : f x with
      | error e' =>
          rw [hx] at h
          cases h
          exact ⟨x, List.mem_cons_self, hx⟩
      | ok y =>
          cases hrest : rest.mapM f with
          | error e' =>
              rw [hx, hrest] at h
              cases h
              rcases ih hrest with ⟨x', hmem, hx'⟩
              exact ⟨x', List.mem_cons_of_mem x hmem, hx'⟩
          | ok ys =>
              rw [hx, hrest] at h
              cases h

/-- Collecting answers gives all of them exactly if each is there. -/
theorem mapM_isOk_iff {f : α → Except ε β} {xs : List α} :
    (∃ ys, xs.mapM f = .ok ys) ↔ ∀ x ∈ xs, ∃ y, f x = .ok y := by
  cases hxs : xs.mapM f with
  | error e =>
      rcases mapM_eq_error hxs with ⟨x, hx, he⟩
      constructor
      · rintro ⟨_, h⟩
        cases h
      · intro h
        rcases h x hx with ⟨y, hy⟩
        rw [he] at hy
        cases hy
  | ok ys =>
      refine ⟨fun _ x hx => ?_, fun _ => ⟨ys, rfl⟩⟩
      have hmem : f x ∈ ys.map Except.ok := by
        rw [← mapM_eq_ok_iff.mp hxs]
        exact List.mem_map_of_mem hx
      rcases List.mem_map.mp hmem with ⟨y, -, hy⟩
      exact ⟨y, hy.symm⟩


/-- A log comes before another if its partition has the lesser id. -/
def TopicPartition.before (a b : TopicPartition) : Prop :=
  a.partition < b.partition

namespace Selection

theorem mem_ascending (id : Int) (ids : List Int) : id ∈ ascending ids ↔ id ∈ ids :=
  List.mem_mergeSort

theorem ascending_pairwise (ids : List Int) : (ascending ids).Pairwise (· ≤ ·) := by
  have htrans : ∀ a b c : Int, decide (a ≤ b) → decide (b ≤ c) → decide (a ≤ c) := by
    intro a b c hab hbc
    exact decide_eq_true (Int.le_trans (of_decide_eq_true hab) (of_decide_eq_true hbc))
  have htotal : ∀ a b : Int, (decide (a ≤ b) || decide (b ≤ a)) = true := by
    intro a b
    rw [Bool.or_eq_true, decide_eq_true_eq, decide_eq_true_eq]
    omega
  exact (List.pairwise_mergeSort htrans htotal ids).imp of_decide_eq_true

/-- The ids of a topic's partitions that a filter lets through, in ascending order. -/
def selected (available : Option (List Int)) (filter : Option Int) : List Int :=
  (ascending (available.getD [])).filter (admits filter)

theorem mem_selected (id : Int) (available : Option (List Int)) (filter : Option Int) :
    id ∈ selected available filter ↔ id ∈ available.getD [] ∧ admits filter id := by
  rw [selected, List.mem_filter, mem_ascending]

/-- Selecting logs: a topic without partitions, a filter that lets none through, or a
    log for each id that it lets through. -/
theorem logs_eq (topic : String) (available : Option (List Int)) (filter : Option Int) :
    Selection.logs topic available filter =
      if available.getD [] = [] then .error (.noSuchTopic topic)
      else if selected available filter = [] then .error (.noSuchPartition topic filter)
      else .ok ((selected available filter).map fun id => ⟨topic, id⟩) := by
  have hempty : (ascending (available.getD [])).isEmpty ↔ available.getD [] = [] := by
    rw [List.isEmpty_iff, ← List.length_eq_zero_iff, ascending, List.length_mergeSort,
      List.length_eq_zero_iff]
  rw [Selection.logs]
  by_cases hnone : available.getD [] = []
  · rw [if_pos hnone, if_pos (hempty.mpr hnone)]
  · rw [if_neg hnone, if_neg (fun h => hnone (hempty.mp h)), ← selected]
    by_cases hselected : selected available filter = []
    · rw [if_pos hselected, if_pos (List.isEmpty_iff.mpr hselected)]
    · rw [if_neg hselected, if_neg (fun h => hselected (List.isEmpty_iff.mp h))]

theorem logs_eq_ok {topic : String} {available : Option (List Int)} {filter : Option Int}
    {logs : List TopicPartition} (h : Selection.logs topic available filter = .ok logs) :
    selected available filter ≠ [] ∧
      logs = (selected available filter).map fun id => ⟨topic, id⟩ := by
  rw [logs_eq] at h
  split_ifs at h with hnone hselected
  cases h
  exact ⟨hselected, rfl⟩

/-- The selected logs are in ascending order of ids. -/
theorem logs_pairwise {topic : String} {available : Option (List Int)} {filter : Option Int}
    {logs : List TopicPartition} (h : Selection.logs topic available filter = .ok logs) :
    logs.Pairwise fun a b => a.partition ≤ b.partition := by
  rw [(logs_eq_ok h).2, List.pairwise_map]
  exact (ascending_pairwise _).filter _

/-- No log is selected twice if no id is there twice. -/
theorem logs_nodup {topic : String} {available : Option (List Int)} {filter : Option Int}
    {logs : List TopicPartition} (h : Selection.logs topic available filter = .ok logs)
    (hdistinct : (available.getD []).Nodup) : logs.Nodup := by
  have hsorted : (ascending (available.getD [])).Nodup :=
    (List.mergeSort_perm (available.getD []) _).nodup_iff.mpr hdistinct
  rw [(logs_eq_ok h).2, List.Nodup, List.pairwise_map]
  refine (hsorted.filter _).imp fun hne heq => hne ?_
  exact congrArg TopicPartition.partition heq

end Selection

namespace Positions

/-- If there is a position for each log, the positions are those, in the order of the logs. -/
theorem keys_of_positions {position : TopicPartition → Except Failure Int}
    {logs : List TopicPartition} {pairs : List (TopicPartition × Int)}
    (h : (logs.map fun log => (position log).map fun offset => (log, offset)) = pairs.map .ok) :
    pairs.map Prod.fst = logs ∧ ∀ p ∈ pairs, position p.1 = .ok p.2 := by
  induction logs generalizing pairs with
  | nil =>
      rw [List.map_eq_nil_iff.mp h.symm]
      exact ⟨rfl, fun p hp => absurd hp List.not_mem_nil⟩
  | cons log rest ih =>
      cases pairs with
      | nil => cases h
      | cons pair pairs =>
          rw [List.map_cons, List.map_cons, List.cons.injEq] at h
          rcases ih h.2 with ⟨hkeys, hvalues⟩
          cases hlog : position log with
          | error e =>
              rw [hlog] at h
              cases h.1
          | ok offset =>
              rw [hlog] at h
              have hpair : (log, offset) = pair := Except.ok.inj h.1
              refine ⟨by rw [List.map_cons, hkeys, ← hpair], fun p hp => ?_⟩
              rcases List.mem_cons.mp hp with rfl | hp
              · rw [← hpair]
                exact hlog
              · exact hvalues p hp

/-- Positions for all logs come from an answer for each of them. -/
theorem forEach_eq_ok {logs : List TopicPartition} {position : TopicPartition → Except Failure Int}
    {positions : Positions} (h : forEach logs position = .ok positions) :
    (∀ log, log ∈ positions.map Prod.fst ↔ log ∈ logs) ∧
      (positions.map Prod.fst).Sublist logs ∧ (positions.map Prod.fst).Nodup ∧
      ∀ p ∈ positions, position p.1 = .ok p.2 := by
  rw [forEach] at h
  cases hpairs : logs.mapM fun log => (position log).map fun offset => (log, offset) with
  | error e =>
      rw [hpairs] at h
      cases h
  | ok pairs =>
      rw [hpairs] at h
      cases h
      rcases keys_of_positions (mapM_eq_ok_iff.mp hpairs) with ⟨hkeys, hvalues⟩
      refine ⟨fun log => ?_, ?_, Entries.nodup_keys_ofPairs pairs, fun p hp => ?_⟩
      · rw [Entries.mem_keys_ofPairs, hkeys]
      · exact hkeys ▸ Entries.keys_ofPairs_sublist pairs
      · exact hvalues p (Entries.mem_of_mem_ofPairs hp)

/-- If there are not positions for all logs, the answer for one of them is the failure. -/
theorem forEach_eq_error {logs : List TopicPartition}
    {position : TopicPartition → Except Failure Int} {e : Failure}
    (h : forEach logs position = .error e) : ∃ log ∈ logs, position log = .error e := by
  rw [forEach] at h
  cases hpairs : logs.mapM fun log => (position log).map fun offset => (log, offset) with
  | error e' =>
      rw [hpairs] at h
      cases h
      rcases mapM_eq_error hpairs with ⟨log, hmem, hlog⟩
      refine ⟨log, hmem, ?_⟩
      cases hposition : position log with
      | error e' =>
          rw [hposition] at hlog
          cases hlog
          rfl
      | ok offset =>
          rw [hposition] at hlog
          cases hlog
  | ok pairs =>
      rw [hpairs] at h
      cases h

theorem mem_missing {found : List (TopicPartition × Option Int)} {logs : List TopicPartition}
    {log : TopicPartition} :
    log ∈ missing found logs ↔ log ∈ logs ∧ foundFor found log = none := by
  rw [missing, List.mem_filter, Option.isNone_iff_eq_none]

theorem missing_sublist (found : List (TopicPartition × Option Int))
    (logs : List TopicPartition) : (missing found logs).Sublist logs :=
  List.filter_sublist

/-- Whether all ends that were asked for were reported; the first that was not is the
    failure. -/
def reported (asked : List TopicPartition) (ends : List (TopicPartition × Int)) :
    Except Failure Unit :=
  (asked.mapM (endOf ends)).map fun _ => ()

/-- Positions fail just as their logs do, one by one. -/
theorem forEach_fails (logs : List TopicPartition)
    (position : TopicPartition → Except Failure Int) :
    ((forEach logs position).map fun _ => ()) =
      (logs.mapM fun log => (position log).map fun offset => (log, offset)).map fun _ => () := by
  rw [forEach]
  cases logs.mapM fun log => (position log).map fun offset => (log, offset) <;> rfl

/-- The position of a log for an instant: the offset found in it, or else its end. -/
def foundOrEnd (found : List (TopicPartition × Option Int)) (ends : List (TopicPartition × Int))
    (log : TopicPartition) : Except Failure Int :=
  match foundFor found log with
  | some offset => .ok offset
  | none => endOf ends log

theorem ofFound_eq (logs : List TopicPartition) (found : List (TopicPartition × Option Int))
    (ends : List (TopicPartition × Int)) :
    ofFound logs found ends = forEach logs (foundOrEnd found ends) :=
  rfl

/-- Positions for an instant need the ends of the logs without an offset. -/
theorem ofFound_fails (logs : List TopicPartition) (found : List (TopicPartition × Option Int))
    (ends : List (TopicPartition × Int)) :
    ((ofFound logs found ends).map fun _ => ()) = reported (missing found logs) ends := by
  -- The test of the logs that are asked about is whether no offset was found.
  rw [ofFound_eq, forEach_fails, reported, missing]
  refine (mapM_filter_map ?_ ?_).symm
  · intro log hlog
    rw [Option.isNone_iff_eq_none] at hlog
    rw [foundOrEnd, hlog]
    cases endOf ends log <;> rfl
  · intro log hlog
    rw [foundOrEnd]
    cases hfound : foundFor found log with
    | none =>
        rw [hfound] at hlog
        cases hlog
    | some offset => rfl

/-- Positions for an offset need the ends of all logs. -/
theorem ofOffset_fails (logs : List TopicPartition) (offset : Int)
    (ends : List (TopicPartition × Int)) :
    ((ofOffset logs offset ends).map fun _ => ()) = reported logs ends := by
  -- Asking for all ends is asking for those that pass a test that all pass.
  have hall : logs.filter (fun _ => true) = logs := List.filter_eq_self.mpr fun _ _ => rfl
  rw [ofOffset, forEach_fails, reported, ← congrArg (List.mapM (endOf ends)) hall]
  refine (mapM_filter_map ?_ ?_).symm
  · intro log _
    cases endOf ends log <;> rfl
  · intro log hlog
    cases hlog

/-- Positions that come from sorted logs of one topic are strictly sorted. -/
theorem pairwise_before {topic : String} {logs keys : List TopicPartition}
    (htopic : ∀ log ∈ logs, log.topic = topic)
    (hsorted : logs.Pairwise fun a b => a.partition ≤ b.partition)
    (hsub : keys.Sublist logs) (hnodup : keys.Nodup) : keys.Pairwise TopicPartition.before := by
  refine ((hsorted.sublist hsub).and hnodup).imp_of_mem fun {a b} ha hb hab => ?_
  rcases hab with ⟨hle, hne⟩
  refine Int.lt_iff_le_and_ne.mpr ⟨hle, fun heq => hne ?_⟩
  -- Two logs of one topic with one id are the same log.
  have htopics : a.topic = b.topic :=
    (htopic a (hsub.subset ha)).trans (htopic b (hsub.subset hb)).symm
  cases a
  cases b
  simp only at htopics heq
  rw [htopics, heq]

end Positions

end RecordGateway
