import Mathlib.Tactic.SplitIfs
import RecordGateway.Broker.Clients
import RecordGateway.Proofs.Client.Documented
import RecordGateway.Proofs.Entries

/-!
# The Broker in Memory Answers as Documented

Unless it is told to misbehave, the broker in memory has a consumer that answers as
consumers document. So what is shown of documented consumers is not shown of nothing,
and it holds of every run against this broker.

All calls but the poll are looked up in the logs, or in the list of positions. The poll
goes through the logs with a budget that shrinks by what each of them gives. It never
falls below zero as long as every log gives no more than it is asked for, and so the
invariant of the walk is that what is given, together with the budget that is left, is
what was there before.

## Main definitions

* `Broker.cluster`: the partitions and the logs of a broker.
* `Broker.position`: where the consumer stands.
* `Broker.Behaves`: a broker that is not told to misbehave.

## Theorems

* `Broker.cluster_proper`: brokers with proper logs have a cluster in order.
* `Broker.batches_handedOut`: what a poll gives.
* `Broker.documented`: the consumer answers as documented.
* `Broker.thorough`: its polls of a single log are full.
-/

namespace RecordGateway

namespace Broker

/-- The partitions and the logs of a broker. -/
def cluster (b : Broker) : Cluster :=
  ⟨b.partitionsOf?, fun name => (b.log? name).getD (Log.empty 0)⟩

/-- Where the consumer stands in a log, if it has taken it on. -/
def position (b : Broker) (name : TopicPartition) : Option Int :=
  Entries.get? name b.positions

/-- A broker with given topics that is not told to misbehave: its calls raise no faults,
    it answers about instants, and a poll keeps to its order and its bound. -/
structure Behaves (topics : List (String × List (Int × Log))) (b : Broker) : Prop where
  /-- The topics are those. -/
  topics : b.topics = topics
  /-- No call raises. -/
  faults : b.faults = []
  /-- There are answers about instants. -/
  answers : b.unfound ≠ .silent
  /-- A poll goes through the logs as the consumer has them. -/
  pollOrder : b.pollOrder = none
  /-- A poll gives no more than it is asked for. -/
  overdeliver : b.overdeliver = 0
  /-- The consumer stands in each log once. -/
  positions : (b.positions.map Prod.fst).Nodup

/-- A log that a topic's ids name is there. -/
theorem log?_of_knows {b : Broker} {name : TopicPartition} (h : b.cluster.Knows name) :
    b.log? name = some (b.cluster.log name) := by
  rcases h with ⟨ids, hids, hid⟩
  simp only [cluster, partitionsOf?] at hids ⊢
  rw [log?]
  cases htopic : Entries.get? name.topic b.topics with
  | none =>
      rw [htopic] at hids
      cases hids
  | some logs =>
      rw [htopic, Option.map_some, Option.some.injEq] at hids
      subst hids
      rw [Option.bind_some]
      cases hlog : Entries.get? name.partition logs with
      | some log => rfl
      | none => exact absurd hid (Entries.get?_eq_none_iff.mp hlog)

/-- The cluster of a broker is in order if all of its logs are, and no id is there twice. -/
theorem cluster_proper {b : Broker}
    (h : ∀ topic ∈ b.topics, (topic.2.map Prod.fst).Nodup ∧ ∀ log ∈ topic.2, log.2.Proper) :
    b.cluster.Proper where
  distinct := by
    intro topic ids hids
    rcases Option.map_eq_some_iff.mp hids with ⟨logs, hlogs, rfl⟩
    exact (h _ (Entries.mem_of_get?_eq_some hlogs)).1
  logs := by
    intro name hknows
    have hlog := log?_of_knows hknows
    rcases Option.bind_eq_some_iff.mp hlog with ⟨logs, hlogs, hlog⟩
    exact (h _ (Entries.mem_of_get?_eq_some hlogs)).2 _ (Entries.mem_of_get?_eq_some hlog)

/-- A call for which there is no fault acts. -/
theorem answering_ok {α : Type} {b : Broker} (hfaults : b.faults = []) (call : Call)
    (act : Broker → α × Broker) : answering call act b = (.ok (act b).1, (act b).2) := by
  rw [answering, hfaults]
  rfl

section Calls

/-! What each call of the consumer comes to if the broker holds no fault. -/

variable {b : Broker} (hfaults : b.faults = [])
include hfaults

theorem consumer_create (limit : Option Int) :
    consumer.create limit b = (.ok (), { b with positions := [] }) :=
  answering_ok hfaults .consumerNew fun b => ((), { b with positions := [] })

theorem consumer_partitionsOf (topic : String) :
    consumer.partitionsOf topic b = (.ok (b.partitionsOf? topic), b) :=
  answering_ok hfaults .partitionsOf fun b => (b.partitionsOf? topic, b)

theorem consumer_assign (logs : List TopicPartition) :
    consumer.assign logs b = (.ok (), { b with
      positions := logs.map fun log => (log, ((b.log? log).map Log.first).getD 0) }) :=
  answering_ok hfaults .assign fun b =>
    ((), { b with positions := logs.map fun log => (log, ((b.log? log).map Log.first).getD 0) })

theorem consumer_offsetsForTimes (asked : List (TopicPartition × Instant)) :
    consumer.offsetsForTimes asked b = (.ok (if b.unfound = .silent then none
      else some (asked.filterMap fun pair => b.offsetFor pair.1 pair.2)), b) := by
  have hanswer := answering_ok hfaults .offsetsForTimes fun b =>
    (if b.unfound = .silent then none
      else some (asked.filterMap fun pair => b.offsetFor pair.1 pair.2), b)
  exact hanswer

theorem consumer_endOffsets (logs : List TopicPartition) :
    consumer.endOffsets logs b = (.ok (logs.filterMap b.endOf), b) :=
  answering_ok hfaults .endOffsets fun b => (logs.filterMap b.endOf, b)

theorem consumer_seek (log : TopicPartition) (offset : Int) :
    consumer.seek log offset b =
      (.ok (), { b with positions := Entries.put log offset b.positions }) :=
  answering_ok hfaults .seek fun b =>
    ((), { b with positions := Entries.put log offset b.positions })

theorem consumer_poll (timeout : Number) (limit : Int) :
    consumer.poll timeout limit b =
      (.ok (b.batches (limit + b.overdeliver) b.pollSequence), b) :=
  answering_ok hfaults .poll fun b => (b.batches (limit + b.overdeliver) b.pollSequence, b)

theorem consumer_close : consumer.close b = (.ok (), b) :=
  answering_ok hfaults .consumerClose fun b => ((), b)

end Calls

/-- The records of a log from an offset on; of a log that is not there, none. -/
theorem since_log? (b : Broker) (name : TopicPartition) (offset : Int) :
    ((b.log? name).map fun log => log.since offset).getD [] =
      (b.cluster.log name).since offset := by
  simp only [cluster]
  cases b.log? name <;> rfl

/-- What a poll gives within a budget: from each log a run of records from the position
    on, and together no more than the budget. -/
theorem batches_handedOut (b : Broker) (positions : List (TopicPartition × Int)) {budget : Int}
    (hbudget : 0 ≤ budget) :
    ∃ parts : Polled, b.batches budget positions = parts.handedOut ∧
      (parts.map Prod.fst).Sublist (positions.map Prod.fst) ∧ (parts.total : Int) ≤ budget ∧
      ∀ part ∈ parts, ∃ offset, (part.1, offset) ∈ positions ∧
        part.2 <+: (b.cluster.log part.1).since offset := by
  induction positions generalizing budget with
  | nil => exact ⟨[], rfl, List.Sublist.refl _, hbudget, fun part h => absurd h List.not_mem_nil⟩
  | cons entry rest ih =>
      rcases entry with ⟨name, offset⟩
      -- The first log gives what the budget allows, and leaves the rest of the budget.
      have hrun : ((b.cluster.log name).since offset).take budget.toNat <+:
          (b.cluster.log name).since offset := List.take_prefix _ _
      have hlength := List.length_take_le budget.toNat ((b.cluster.log name).since offset)
      simp only [batches, since_log?, within, if_pos hbudget]
      generalize ((b.cluster.log name).since offset).take budget.toNat = run at hrun hlength ⊢
      have hleft : 0 ≤ budget - (run.length : Int) := by omega
      rcases ih hleft with ⟨parts, hparts, hkeys, htotal, hruns⟩
      have hothers : ∀ part ∈ parts, ∃ o, (part.1, o) ∈ (name, offset) :: rest ∧
          part.2 <+: (b.cluster.log part.1).since o := by
        intro part hpart
        rcases hruns part hpart with ⟨o, hmem, hprefix⟩
        exact ⟨o, List.mem_cons_of_mem _ hmem, hprefix⟩
      -- A log that gives nothing is left out, and the keys stay a sublist either way.
      split_ifs with hempty
      · refine ⟨parts, hparts, hkeys.cons _, ?_, hothers⟩
        omega
      · refine ⟨(name, run) :: parts, by rw [hparts]; rfl, hkeys.cons_cons _, ?_, ?_⟩
        · rw [Polled.total_cons]
          omega
        · intro part hpart
          rcases List.mem_cons.mp hpart with rfl | hpart
          · exact ⟨offset, List.mem_cons_self, hrun⟩
          · exact hothers part hpart

/-- The answer about an instant, for logs that are there. -/
theorem offsetFor_eq (b : Broker) (name : TopicPartition) (t : Instant) :
    b.offsetFor name t =
      (match (b.log? name).bind fun log => log.offsetAt t with
        | some offset => some (some offset)
        | none => if b.unfound = Unfound.null then some none else none).map
          fun answer => (name, answer) := by
  rw [offsetFor]
  cases (b.log? name).bind fun log => log.offsetAt t with
  | some offset => rfl
  | none =>
      by_cases hnull : b.unfound = Unfound.null
      · simp only [if_pos hnull]
        rfl
      · simp only [if_neg hnull]
        rfl

/-- The first record at or after an instant, as it is looked up in an answer. -/
theorem foundFor_offsetFor {b : Broker} {asked : List (TopicPartition × Instant)}
    (hnodup : (asked.map Prod.fst).Nodup) {pair : TopicPartition × Instant}
    (hpair : pair ∈ asked) (hknows : b.cluster.Knows pair.1) :
    Positions.foundFor (asked.filterMap fun pair => b.offsetFor pair.1 pair.2) pair.1 =
      (b.cluster.log pair.1).offsetAt pair.2 := by
  rcases pair with ⟨name, t⟩
  -- A log that the answer leaves out and one that it has without an offset look the same.
  have hlook := Entries.get?_filterMap_of_mem hnodup (fun name t =>
    match (b.log? name).bind fun log => log.offsetAt t with
    | some offset => some (some offset)
    | none => if b.unfound = Unfound.null then some none else none) hpair
  simp only [← offsetFor_eq] at hlook
  rw [Positions.foundFor, hlook, log?_of_knows hknows, Option.bind_some]
  cases (b.cluster.log name).offsetAt t with
  | some offset => rfl
  | none =>
      by_cases hnull : b.unfound = Unfound.null
      · simp only [if_pos hnull]
        rfl
      · simp only [if_neg hnull]
        rfl

/-- Brokers with the same topics have the same cluster. -/
theorem cluster_congr {b b' : Broker} (h : b'.topics = b.topics) : b'.cluster = b.cluster := by
  have hpartitions : b'.partitionsOf? = b.partitionsOf? := by
    funext topic
    rw [partitionsOf?, partitionsOf?, h]
  have hlog : b'.log? = b.log? := by
    funext name
    rw [log?, log?, h]
  rw [cluster, cluster, hpartitions, hlog]

/-- The consumer of a broker that is not told to misbehave answers as documented. -/
theorem documented (b : Broker) :
    Documented consumer b.cluster position (Behaves b.topics) where
  create := by
    intro s limit hs
    refine ⟨_, consumer_create hs.faults limit, ?_⟩
    exact ⟨hs.topics, hs.faults, hs.answers, hs.pollOrder, hs.overdeliver, List.nodup_nil⟩
  partitionsOf := by
    intro s topic hs
    rw [← cluster_congr hs.topics]
    exact ⟨s, consumer_partitionsOf hs.faults topic, hs⟩
  assign := by
    intro s logs hs hnodup hknows
    have hkeys := Entries.keys_map (fun log => ((s.log? log).map Log.first).getD 0) logs
    refine ⟨_, consumer_assign hs.faults logs, ?_, fun name => ?_⟩
    · exact ⟨hs.topics, hs.faults, hs.answers, hs.pollOrder, hs.overdeliver, hkeys.symm ▸ hnodup⟩
    · rw [← cluster_congr hs.topics] at hknows ⊢
      refine (Entries.get?_map _ logs name).trans ?_
      split_ifs with hmem
      · rw [log?_of_knows (hknows name hmem)]
        rfl
      · rfl
  offsetsForTimes := by
    intro s asked hs hnodup hknows
    refine ⟨_, s, consumer_offsetsForTimes hs.faults asked, hs, rfl, fun pair hpair => ?_⟩
    rw [← cluster_congr hs.topics] at hknows ⊢
    rw [if_neg hs.answers, Option.getD_some]
    exact foundFor_offsetFor hnodup hpair (hknows pair hpair)
  endOffsets := by
    intro s logs hs hknows
    refine ⟨_, s, consumer_endOffsets hs.faults logs, hs, rfl, fun name hname => ?_⟩
    rw [← cluster_congr hs.topics] at hknows ⊢
    have hlook := Entries.get?_filterMap (fun log => (s.log? log).map Log.next) logs name
    simp only [Option.map_map] at hlook
    refine hlook.trans ?_
    rw [if_pos hname, log?_of_knows (hknows name hname)]
    rfl
  seek := by
    intro s name offset hs hstands hoffset
    refine ⟨_, consumer_seek hs.faults name offset, ?_, fun other => ?_⟩
    -- A log that is moved has a position, so its entry is changed in place.
    · have hmem : name ∈ s.positions.map Prod.fst := by
        refine Decidable.byContradiction fun hnot => ?_
        rw [position, Entries.get?_eq_none_iff.mpr hnot] at hstands
        cases hstands
      refine ⟨hs.topics, hs.faults, hs.answers, hs.pollOrder, hs.overdeliver, ?_⟩
      rw [Entries.keys_put_of_mem hmem]
      exact hs.positions
    · rw [position, Entries.get?_put]
      simp only [eq_comm]
      rfl
  poll := by
    intro s timeout limit hs hlimit
    have hbudget : 0 ≤ limit + s.overdeliver := by
      rw [hs.overdeliver]
      omega
    rcases batches_handedOut s s.positions hbudget with ⟨parts, hparts, hkeys, htotal, hruns⟩
    refine ⟨parts, s, ?_, hs, hs.positions.sublist hkeys, ?_, fun part hpart => ?_⟩
    · rw [consumer_poll hs.faults, pollSequence, hs.pollOrder, ← hparts]
    · rw [hs.overdeliver] at htotal
      omega
    · rcases hruns part hpart with ⟨offset, hmem, hprefix⟩
      rw [cluster_congr hs.topics] at hprefix
      exact ⟨offset, Entries.get?_eq_some_of_mem hs.positions hmem, hprefix⟩
  close := by
    intro s hs
    exact ⟨s, consumer_close hs.faults, hs⟩

/-- What a single log gives within a budget. -/
theorem flatMap_batches_single (b : Broker) (name : TopicPartition) (offset : Int) {budget : Int}
    (hbudget : 0 ≤ budget) :
    (b.batches budget [(name, offset)]).flatMap Prod.snd =
      (((b.cluster.log name).since offset).take budget.toNat).map
        (StoredRecord.consume name.partition) := by
  simp only [batches, since_log?, within, if_pos hbudget]
  split_ifs with hempty
  · rw [List.isEmpty_iff.mp hempty, List.flatMap_nil]
  · rw [List.flatMap_cons, List.flatMap_nil, List.append_nil]

/-- The polls of a broker that is not told to misbehave are full where the consumer stands
    in a single log. -/
theorem thorough (b : Broker) : Thorough consumer b.cluster position (Behaves b.topics) where
  toDocumented := documented b
  full := by
    intro s timeout limit name offset hs hlimit hknows hstands
    have hbudget : 0 ≤ limit + s.overdeliver := by
      rw [hs.overdeliver]
      omega
    refine ⟨_, s, consumer_poll hs.faults timeout limit, hs, ?_⟩
    rw [pollSequence, hs.pollOrder, Entries.eq_singleton_of_get? hs.positions hstands,
      flatMap_batches_single s name offset hbudget, cluster_congr hs.topics, hs.overdeliver,
      Int.add_zero]

end Broker

end RecordGateway
