import RecordGateway.Proofs.Broker.Documented
import RecordGateway.Proofs.Reading.Protocol

/-!
# A Page Is a Slice of the Logs

What is on a page, if the consumer answers as documented.

The way from what was asked for to what is shown has four steps: partitions are selected,
a start is worked out for each log, the consumer is moved there, and a poll hands out
runs of records within one bound for all logs. The invariant that ties them together is
about where the consumer stands. After logs were taken on, it stands at the beginning of
each, and nowhere else. Moving it one log after another brings it, log by log, to the
start of the read, and each move leaves the other logs alone. So before the poll the
consumer stands at the start in every selected log, and only there, and from the start on
a log has exactly the records that were asked for.

A page is made from what the poll of the same read answered. To say so, a read is cut at its
poll: `Reader.approach` is all that comes before it, and `Reader.Polls` is about the answer in
the world that the approach leads to.

No bound of the broker and no order of the partitions in a poll is assumed. The poll may
hand out nothing at all.

## Main definitions

* `Slice`: records that a read may show.
* `Polled.shown`: the records as they are shown.
* `Stands`: the consumer stands at the start of the read in the selected logs.
* `Reader.approach`: the calls before the poll.
* `Reader.Polls`: what a read polls, and that it does.

## Theorems

* `Positions.find_documented`: the positions found are the starts.
* `Positions.apply_documented`: moving the consumer, log by log.
* `Reader.approach_documented`: the calls before the poll.
* `Reader.fetch_of_approach`: the calls between making a consumer and closing it.
* `Reader.read_slice`: every page is a slice of the logs.
-/

namespace RecordGateway

variable {σ : Type}

/-- The records as they are shown, log after log, the wanted fields alone. -/
def Polled.shown (wanted : List FieldName) (parts : Polled) : List (Except RangeError Record) :=
  parts.flatMap fun part =>
    part.2.map fun record => (record.consume part.1.partition).view wanted

/-- Records that a read may show. -/
structure Slice (k : Cluster) (q : Query) (since : Option Instant) (parts : Polled) : Prop where
  /-- No log is there twice. -/
  distinct : (parts.map Prod.fst).Nodup
  /-- All logs are partitions of the topic that the filter lets through. -/
  selected : ∀ part ∈ parts, part.1.topic = q.topic ∧ k.Knows part.1 ∧
    Selection.admits q.partition part.1.partition
  /-- The records of a log are the first of those asked for. -/
  runs : ∀ part ∈ parts, part.2 <+: (k.log part.1).startingAt q.offset since
  /-- A log without any record asked for has none. -/
  nothing : ∀ part ∈ parts, (k.log part.1).startingAt q.offset since = [] → part.2 = []
  /-- All logs together have no more records than asked for. -/
  bounded : (parts.total : Int) ≤ q.limit

/-- The consumer stands at given offsets in logs, and in no others. -/
def Stands (position : σ → TopicPartition → Option Int) (logs : List TopicPartition)
    (offset : TopicPartition → Int) (s : σ) : Prop :=
  ∀ name, position s name = if name ∈ logs then some (offset name) else none

variable {c : Consumer σ} {k : Cluster} {position : σ → TopicPartition → Option Int}
  {ready : σ → Prop}

namespace Positions

/-- Moving the consumer brings it to each position, and leaves the other logs alone. -/
theorem apply_documented (h : Documented c k position ready) (positions : Positions) {s : σ}
    (hs : ready s) (hnodup : (positions.map Prod.fst).Nodup)
    (hstands : ∀ p ∈ positions, (position s p.1).isSome) (hoffsets : ∀ p ∈ positions, 0 ≤ p.2) :
    ∃ s' es, (apply c positions).Yields s (.ok ()) s' es ∧ ready s' ∧
      (∀ p ∈ positions, position s' p.1 = some p.2) ∧
      ∀ name ∉ positions.map Prod.fst, position s' name = position s name := by
  induction positions generalizing s with
  | nil =>
      exact ⟨s, [], Exchange.Yields.pure () s, hs, fun p hp => absurd hp List.not_mem_nil,
        fun _ _ => rfl⟩
  | cons move rest ih =>
      rcases move with ⟨log, offset⟩
      rw [List.map_cons, List.nodup_cons] at hnodup
      rcases h.seek s log offset hs (hstands _ List.mem_cons_self) (hoffsets _ List.mem_cons_self)
        with ⟨s₁, hseek, hready, hmoved⟩
      -- A log that is moved later is another one, so it still stands somewhere.
      have hrest : ∀ p ∈ rest, (position s₁ p.1).isSome := by
        intro p hp
        have hne : p.1 ≠ log := by
          rintro rfl
          exact hnodup.1 (List.mem_map.mpr ⟨p, hp, rfl⟩)
        rw [hmoved, if_neg hne]
        exact hstands p (List.mem_cons_of_mem _ hp)
      rcases ih hready hnodup.2 hrest fun p hp => hoffsets p (List.mem_cons_of_mem _ hp) with
        ⟨s', es, hes, hready', hat, hothers⟩
      refine ⟨s', _, Exchange.Yields.bind_ok (Exchange.Yields.note (.seeking log offset) s)
        (Exchange.Yields.bind_ok (Exchange.Yields.call_ok (.seek log offset) hseek) hes),
        hready', fun p hp => ?_, fun name hname => ?_⟩
      · rcases List.mem_cons.mp hp with rfl | hp
        -- The first log is not moved again.
        · rw [hothers log hnodup.1, hmoved, if_pos rfl]
        · exact hat p hp
      · rw [List.map_cons, List.mem_cons, not_or] at hname
        rw [hothers name hname.2, hmoved, if_neg hname.1]

/-- What finding positions comes to: each position is the start of the read in its log,
    and a log without a position is read from its beginning. -/
structure Found (k : Cluster) (logs : List TopicPartition) (offset : Option Int)
    (since : Option Instant) (positions : Positions) : Prop where
  /-- No log has two positions. -/
  distinct : (positions.map Prod.fst).Nodup
  /-- The positions are starts. -/
  starts : ∀ p ∈ positions, p.1 ∈ logs ∧ p.2 = (k.log p.1).start offset since
  /-- The other logs begin at the beginning. -/
  others : ∀ log ∈ logs, log ∉ positions.map Prod.fst →
    (k.log log).start offset since = (k.log log).first

/-- Positions worked out log by log are found if each of them is the start. -/
theorem found_of_forEach {logs : List TopicPartition}
    {position : TopicPartition → Except Failure Int} {offset : Option Int}
    {since : Option Instant}
    (h : ∀ log ∈ logs, position log = .ok ((k.log log).start offset since)) :
    ∃ positions, forEach logs position = .ok positions ∧ Found k logs offset since positions := by
  cases hpositions : forEach logs position with
  | error e =>
      rcases forEach_eq_error hpositions with ⟨log, hlog, he⟩
      rw [h log hlog] at he
      cases he
  | ok positions =>
      rcases forEach_eq_ok hpositions with ⟨hmem, -, hnodup, hvalues⟩
      refine ⟨positions, rfl, hnodup, fun p hp => ?_, fun log hlog hnot => ?_⟩
      · have hkey := (hmem p.1).mp (List.mem_map_of_mem hp)
        exact ⟨hkey, Except.ok.inj ((hvalues p hp).symm.trans (h p.1 hkey))⟩
      · exact absurd ((hmem log).mpr hlog) hnot

theorem endOf_eq {ends : List (TopicPartition × Int)} {log : TopicPartition} {e : Int}
    (h : Entries.get? log ends = some e) : endOf ends log = .ok e := by
  rw [endOf, h]

/-- The consumer is asked about an instant and answers as documented. -/
theorem ask_instant_documented (h : Documented c k position ready) {logs : List TopicPartition}
    (hknows : ∀ log ∈ logs, k.Knows log) (t : Instant) {s : σ} (hs : ready s) :
    let asked := Entries.ofPairs (logs.map fun log => (log, t))
    ∃ answer s', (Exchange.call (.offsetsForTimes asked) (c.offsetsForTimes asked)).Yields s
        (.ok answer) s' [.offsetsForTimes asked] ∧ ready s' ∧ position s' = position s ∧
      ∀ log ∈ logs, foundFor (answer.getD []) log = (k.log log).offsetAt t := by
  intro asked
  have hkeys := Entries.keys_map (fun _ => t) logs
  -- Every log is asked about this instant and no other.
  have hpairs : ∀ pair ∈ asked, pair.1 ∈ logs ∧ pair.2 = t := by
    intro pair hpair
    rcases List.mem_map.mp (Entries.mem_of_mem_ofPairs hpair) with ⟨log, hlog, rfl⟩
    exact ⟨hlog, rfl⟩
  rcases h.offsetsForTimes s asked hs (Entries.nodup_keys_ofPairs _)
    (fun pair hpair => hknows _ (hpairs pair hpair).1) with
    ⟨answer, s', hanswer, hready, hstay, hfound⟩
  refine ⟨answer, s', Exchange.Yields.call_ok _ hanswer, hready, hstay, fun log hlog => ?_⟩
  have hmem : log ∈ asked.map Prod.fst := by
    rw [Entries.mem_keys_ofPairs, hkeys]
    exact hlog
  rcases List.mem_map.mp hmem with ⟨pair, hpair, rfl⟩
  rw [hfound pair hpair, (hpairs pair hpair).2]

/-- The consumer is asked for ends and answers as documented. -/
theorem ask_ends_documented (h : Documented c k position ready) {logs : List TopicPartition}
    (hknows : ∀ log ∈ logs, k.Knows log) {s : σ} (hs : ready s) :
    ∃ ends s', (Exchange.call (.endOffsets logs) (c.endOffsets logs)).Yields s (.ok ends) s'
        [.endOffsets logs] ∧ ready s' ∧ position s' = position s ∧
      ∀ log ∈ logs, endOf ends log = .ok (k.log log).next := by
  rcases h.endOffsets s logs hs hknows with ⟨ends, s', hends, hready, hstay, hnext⟩
  exact ⟨ends, s', Exchange.Yields.call_ok _ hends, hready, hstay,
    fun log hlog => endOf_eq (hnext log hlog)⟩

/-- The rest of finding positions for an instant, after an answer as documented. -/
theorem findRest_documented (h : Documented c k position ready) {logs : List TopicPartition}
    (hknows : ∀ log ∈ logs, k.Knows log) (offset : Option Int) {t : Instant}
    {found : List (TopicPartition × Option Int)}
    (hfound : ∀ log ∈ logs, foundFor found log = (k.log log).offsetAt t) {s : σ} (hs : ready s) :
    ∃ positions s' es, (findRest c logs found).Yields s (.ok positions) s' es ∧ ready s' ∧
      position s' = position s ∧ Found k logs offset (some t) positions := by
  -- A log needs its end only if nothing was found in it.
  have hstart (ends : List (TopicPartition × Int))
      (hends : ∀ log ∈ missing found logs, endOf ends log = .ok (k.log log).next) :
      ∀ log ∈ logs, foundOrEnd found ends log = .ok ((k.log log).start offset (some t)) := by
    intro log hlog
    rw [foundOrEnd, Log.start, ← hfound log hlog]
    cases hlooked : foundFor found log with
    | some o => rfl
    | none => exact hends log (mem_missing.mpr ⟨hlog, hlooked⟩)
  by_cases hmissing : (missing found logs).isEmpty
  · have hnone : ∀ log ∈ missing found logs, endOf [] log = .ok (k.log log).next := by
      rw [List.isEmpty_iff.mp hmissing]
      exact fun log hlog => absurd hlog List.not_mem_nil
    rcases found_of_forEach (hstart [] hnone) with ⟨positions, hpositions, hstarts⟩
    refine ⟨positions, s, [], ?_, hs, rfl, hstarts⟩
    rw [findRest, if_pos hmissing, ofFound_eq, hpositions]
    exact Exchange.Yields.ofExcept _ s
  · rcases ask_ends_documented h (fun log hlog => hknows log (mem_missing.mp hlog).1) hs with
      ⟨ends, s', hcall, hready, hstay, hends⟩
    rcases found_of_forEach (hstart ends hends) with ⟨positions, hpositions, hstarts⟩
    have hused : (Exchange.ofExcept (ofFound logs found ends)).Yields s' (.ok positions) s' [] := by
      rw [ofFound_eq, hpositions]
      exact Exchange.Yields.ofExcept _ s'
    refine ⟨positions, s', [.endOffsets (missing found logs)] ++ [], ?_, hready, hstay, hstarts⟩
    rw [findRest, if_neg hmissing]
    exact Exchange.Yields.bind_ok hcall hused

/-- The positions found are the starts of the read. -/
theorem find_documented (h : Documented c k position ready) {logs : List TopicPartition}
    (hknows : ∀ log ∈ logs, k.Knows log) (offset : Option Int) (since : Option Instant) {s : σ}
    (hs : ready s) :
    ∃ positions s' es, (find c logs offset since).Yields s (.ok positions) s' es ∧ ready s' ∧
      position s' = position s ∧ Found k logs offset since positions := by
  cases since with
  | some t =>
      rcases ask_instant_documented h hknows t hs with
        ⟨answer, s₁, hcall, hready, hstay, hfound⟩
      rcases findRest_documented h hknows offset hfound hready with
        ⟨positions, s', es, hrest, hready', hstay', hstarts⟩
      refine ⟨positions, s', [.offsetsForTimes (Entries.ofPairs (logs.map fun log => (log, t)))] ++
        es, ?_, hready', hstay'.trans hstay, hstarts⟩
      rw [find_instant_eq]
      exact Exchange.Yields.bind_ok hcall hrest
  | none =>
      cases offset with
      | some o =>
          rcases ask_ends_documented h hknows hs with ⟨ends, s', hcall, hready, hstay, hends⟩
          have hstart : ∀ log ∈ logs, ((endOf ends log).map fun e => if o ≤ e then o else e) =
              .ok ((k.log log).start (some o) none) := by
            intro log hlog
            rw [hends log hlog]
            rfl
          rcases found_of_forEach hstart with ⟨positions, hpositions, hstarts⟩
          have hused : (Exchange.ofExcept (ofOffset logs o ends)).Yields s' (.ok positions) s'
              [] := by
            rw [ofOffset, hpositions]
            exact Exchange.Yields.ofExcept _ s'
          exact ⟨positions, s', _, Exchange.Yields.bind_ok hcall hused, hready, hstay, hstarts⟩
      | none =>
          refine ⟨[], s, [], Exchange.Yields.pure _ s, hs, rfl, List.nodup_nil, ?_, ?_⟩
          · intro p hp
            cases hp
          · intro log _ _
            rfl

/-- After the consumer was moved to the positions found, it stands at the starts. -/
theorem stands_of_applied {logs : List TopicPartition} {offset : Option Int}
    {since : Option Instant} {positions : Positions} (hfound : Found k logs offset since positions)
    {s s' : σ} (hs : Stands position logs (fun name => (k.log name).first) s)
    (hat : ∀ p ∈ positions, position s' p.1 = some p.2)
    (hothers : ∀ name ∉ positions.map Prod.fst, position s' name = position s name) :
    Stands position logs (fun name => (k.log name).start offset since) s' := by
  intro name
  -- A log is moved, or its start is the beginning, where the consumer has stood all along.
  by_cases hmoved : name ∈ positions.map Prod.fst
  · rcases List.mem_map.mp hmoved with ⟨p, hp, rfl⟩
    rcases hfound.starts p hp with ⟨hlog, hstart⟩
    rw [hat p hp, if_pos hlog, hstart]
  · rw [hothers name hmoved, hs name]
    by_cases hlog : name ∈ logs
    · rw [if_pos hlog, if_pos hlog]
      exact congrArg some (hfound.others name hlog hmoved).symm
    · rw [if_neg hlog, if_neg hlog]

end Positions

namespace Reader

/-- A poll from the start of the read hands out a slice. -/
theorem slice_of_polled {q : Query} {since : Option Instant} (hk : k.Proper)
    {logs : List TopicPartition}
    (hlogs : ∀ log ∈ logs, log.topic = q.topic ∧ k.Knows log ∧
      Selection.admits q.partition log.partition)
    {s : σ} (hs : Stands position logs (fun name => (k.log name).start q.offset since) s)
    {parts : Polled} (hdistinct : (parts.map Prod.fst).Nodup)
    (hbounded : (parts.total : Int) ≤ q.limit)
    (hruns : ∀ part ∈ parts, ∃ offset, position s part.1 = some offset ∧
      part.2 <+: (k.log part.1).since offset) : Slice k q since parts := by
  have hpart : ∀ part ∈ parts, part.1 ∈ logs ∧
      part.2 <+: (k.log part.1).startingAt q.offset since := by
    intro part hmem
    rcases hruns part hmem with ⟨offset, hposition, hprefix⟩
    -- Only in selected logs does the consumer have a position to poll from.
    rw [hs part.1] at hposition
    by_cases hlog : part.1 ∈ logs
    · rw [if_pos hlog, Option.some.injEq] at hposition
      rw [← hposition, Log.since_start (hk.logs _ (hlogs _ hlog).2.1)] at hprefix
      exact ⟨hlog, hprefix⟩
    · rw [if_neg hlog] at hposition
      cases hposition
  refine ⟨hdistinct, fun part hmem => hlogs _ (hpart part hmem).1,
    fun part hmem => (hpart part hmem).2, fun part hmem hempty => ?_, hbounded⟩
  have hprefix := (hpart part hmem).2
  rw [hempty] at hprefix
  exact List.prefix_nil.mp hprefix

/-- The logs of an existing topic that a filter selects. -/
theorem logs_documented {q : Query} {ids : List Int} (hk : k.Proper)
    (hids : k.partitions q.topic = some ids) (hne : ids ≠ [])
    (hfilter : ∀ id, q.partition = some id → id ∈ ids) :
    ∃ logs, Selection.logs q.topic (some ids) q.partition = .ok logs ∧ logs.Nodup ∧
      ∀ log ∈ logs, log.topic = q.topic ∧ k.Knows log ∧
        Selection.admits q.partition log.partition := by
  have hselected : Selection.selected (some ids) q.partition ≠ [] := by
    cases hpartition : q.partition with
    | none =>
        rcases List.exists_mem_of_ne_nil ids hne with ⟨id, hid⟩
        have hmem := (Selection.mem_selected id (some ids) none).mpr ⟨hid, rfl⟩
        exact List.ne_nil_of_mem hmem
    | some id =>
        have hmem := (Selection.mem_selected id (some ids) (some id)).mpr
          ⟨hfilter id hpartition, beq_self_eq_true id⟩
        exact List.ne_nil_of_mem hmem
  have hlogs : Selection.logs q.topic (some ids) q.partition =
      .ok ((Selection.selected (some ids) q.partition).map fun id => ⟨q.topic, id⟩) := by
    rw [Selection.logs_eq, if_neg hselected]
    exact if_neg hne
  refine ⟨_, hlogs, Selection.logs_nodup hlogs (hk.distinct _ _ hids), fun log hlog => ?_⟩
  rcases List.mem_map.mp hlog with ⟨id, hid, rfl⟩
  rcases (Selection.mem_selected id (some ids) q.partition).mp hid with ⟨hmem, hadmits⟩
  exact ⟨rfl, ⟨ids, hids, hmem⟩, hadmits⟩

/-- The outcome of a read is made from what the poll returned. -/
theorem shown_yields (wanted : List FieldName)
    (batches : List (TopicPartition × List ConsumedRecord)) (topic : String) (count : Nat) (s : σ) :
    ∃ es, Exchange.Yields (do
        let page ← Exchange.ofExcept (Page.ofBatches wanted batches)
        Exchange.note (.pageRead page.size topic count)
        return page) s (Page.ofBatches wanted batches) s es := by
  have hpage := Exchange.Yields.ofExcept (Page.ofBatches wanted batches) s
  cases hbatches : Page.ofBatches wanted batches with
  | error e =>
      rw [hbatches] at hpage
      exact ⟨[], Exchange.Yields.bind_error hpage⟩
  | ok page =>
      rw [hbatches] at hpage
      exact ⟨_, Exchange.Yields.bind_ok hpage (Exchange.Yields.bind_ok
        (Exchange.Yields.note (.pageRead page.size topic count) s) (Exchange.Yields.pure page s))⟩

/-- The calls before the poll: the partitions of the topic, taking on the selected ones, and
    moving to where they are to be read. -/
def approach (c : Consumer σ) (q : Query) (since : Option Instant) :
    Exchange σ (List TopicPartition) := do
  let available ← Exchange.call (.partitionsOf q.topic) (c.partitionsOf q.topic)
  let logs ← Exchange.ofExcept (Selection.logs q.topic available q.partition)
  Exchange.call (.assign logs) (c.assign logs)
  let positions ← Positions.find c logs q.offset since
  Positions.apply c positions
  return logs

theorem fetch_eq_approach (r : Reader) (c : Consumer σ) (q : Query) (since : Option Instant)
    (wanted : List FieldName) :
    r.fetch c q since wanted = (approach c q since >>= fun logs =>
      Exchange.call (.poll r.pollTimeout q.limit) (c.poll r.pollTimeout q.limit) >>= fun batches =>
        (do
          let page ← Exchange.ofExcept (Page.ofBatches wanted batches)
          Exchange.note (.pageRead page.size q.topic logs.length)
          return page)) := by
  simp only [fetch, approach, bind_assoc, pure_bind]

/-- After the poll only its answer is left to be shown. -/
theorem fetch_of_approach {r : Reader} {q : Query} {since : Option Instant}
    {logs : List TopicPartition} {s s₁ s₂ : σ} {before : List Event}
    (happroach : (approach c q since).Yields s (.ok logs) s₁ before)
    {batches : List (TopicPartition × List ConsumedRecord)}
    (hpoll : c.poll r.pollTimeout q.limit s₁ = (.ok batches, s₂)) (wanted : List FieldName) :
    ∃ behind, (r.fetch c q since wanted).Yields s (Page.ofBatches wanted batches) s₂
      (before ++ .poll r.pollTimeout q.limit :: behind) := by
  rcases shown_yields wanted batches q.topic logs.length s₂ with ⟨behind, hshown⟩
  refine ⟨behind, ?_⟩
  rw [fetch_eq_approach]
  exact Exchange.Yields.bind_ok happroach
    (Exchange.Yields.bind_ok (Exchange.Yields.call_ok _ hpoll) hshown)

/-- The calls before the poll bring the consumer to the start of the read in the selected
    logs. -/
theorem approach_documented (h : Documented c k position ready) (hk : k.Proper) {q : Query}
    (since : Option Instant) {ids : List Int} (hids : k.partitions q.topic = some ids)
    (hne : ids ≠ []) (hfilter : ∀ id, q.partition = some id → id ∈ ids)
    (hoffset : ∀ o, q.offset = some o → 0 ≤ o) {s : σ} (hs : ready s) :
    ∃ logs s₁ before, (approach c q since).Yields s (.ok logs) s₁ before ∧
      Selection.logs q.topic (some ids) q.partition = .ok logs ∧ ready s₁ ∧
      Stands position logs (fun name => (k.log name).start q.offset since) s₁ := by
  rcases logs_documented hk hids hne hfilter with ⟨logs, hlogs, hnodup, hselected⟩
  have hknows : ∀ log ∈ logs, k.Knows log := fun log hlog => (hselected log hlog).2.1
  rcases h.partitionsOf s q.topic hs with ⟨s₁, hpartitions, hs₁⟩
  rw [hids] at hpartitions
  rcases h.assign s₁ logs hs₁ hnodup hknows with ⟨s₂, hassign, hs₂, hstands⟩
  rcases Positions.find_documented h hknows q.offset since hs₂ with
    ⟨positions, s₃, es₃, hfind, hs₃, hstay, hfound⟩
  -- The consumer can be moved: it stands in these logs, and no start is below zero.
  have hassigned : ∀ p ∈ positions, (position s₃ p.1).isSome := by
    intro p hp
    rw [hstay, hstands, if_pos (hfound.starts p hp).1]
    rfl
  have hoffsets : ∀ p ∈ positions, 0 ≤ p.2 := by
    intro p hp
    rcases hfound.starts p hp with ⟨hlog, hstart⟩
    rw [hstart]
    exact Log.start_nonneg (hk.logs _ (hknows _ hlog)) hoffset since
  rcases Positions.apply_documented h positions hs₃ hfound.distinct hassigned hoffsets with
    ⟨s₄, es₄, happly, hs₄, hat, hothers⟩
  have hstarts := Positions.stands_of_applied hfound (fun name => by rw [hstay, hstands name])
    hat hothers
  have hselect : (Exchange.ofExcept (Selection.logs q.topic (some ids) q.partition)).Yields s₁
      (.ok logs) s₁ [] := by
    rw [hlogs]
    exact Exchange.Yields.ofExcept _ s₁
  exact ⟨logs, s₄, _, Exchange.Yields.bind_ok (Exchange.Yields.call_ok _ hpartitions)
    (Exchange.Yields.bind_ok hselect (Exchange.Yields.bind_ok (Exchange.Yields.call_ok _ hassign)
      (Exchange.Yields.bind_ok hfind (Exchange.Yields.bind_ok happly
        (Exchange.Yields.pure logs s₄))))), hlogs, hs₄, hstarts⟩

/-- What a read polls, and that it does: a consumer is made, the calls before the poll lead to a
    world, and there the poll answers with these records. The poll is among the events. -/
inductive Polls (r : Reader) (c : Consumer σ) (q : Query) (since : Option Instant) (s : σ)
    (parts : Polled) : List Event → Prop where
  /-- The answer of the poll, in the world to which the calls before it lead. -/
  | answered {logs : List TopicPartition} {s₀ s₁ s₂ : σ} {before behind : List Event}
      (hcreate : c.create (some q.limit) s = (.ok (), s₀))
      (happroach : (approach c q since).Yields s₀ (.ok logs) s₁ before)
      (hpoll : c.poll r.pollTimeout q.limit s₁ = (.ok parts.handedOut, s₂)) :
      Polls r c q since s parts
        (.consumerNew (some q.limit) :: (before ++ .poll r.pollTimeout q.limit :: behind))

end Reader

namespace Polled

/-- What is shown is what the poll hands out, record by record. -/
theorem shown_eq (wanted : List FieldName) (parts : Polled) :
    parts.shown wanted =
      (parts.handedOut.flatMap Prod.snd).map fun record => record.view wanted := by
  rw [shown, handedOut, List.flatMap_map, List.map_flatMap]
  simp only [List.map_map]
  rfl

/-- As many records are shown as were handed out. -/
theorem length_shown (wanted : List FieldName) (parts : Polled) :
    (parts.shown wanted).length = parts.total := by
  rw [shown, total, List.length_flatMap, List.length_flatMap]
  simp only [List.length_map]

end Polled

/-- The records on a page are those of the batches, each of them shown. -/
theorem Page.ofBatches_ok {wanted : List FieldName}
    {batches : List (TopicPartition × List ConsumedRecord)}
    (h : ∀ record ∈ batches.flatMap Prod.snd, ∃ shown, record.view wanted = .ok shown) :
    ∃ page, Page.ofBatches wanted batches = .ok page ∧
      page.items.map .ok = (batches.flatMap Prod.snd).map fun record => record.view wanted := by
  rw [Page.ofBatches]
  generalize batches.flatMap Prod.snd = records at h ⊢
  cases hitems : records.mapM fun record => (record.view wanted).mapError Failure.outOfRange with
  | error e =>
      rcases mapM_eq_error hitems with ⟨record, hmem, he⟩
      rcases h record hmem with ⟨shown, hview⟩
      rw [hview] at he
      cases he
  | ok items =>
      refine ⟨⟨items⟩, rfl, ?_⟩
      have hviews := mapM_eq_ok_iff.mp hitems
      -- The failures of a page are the range errors renamed, so none of them is confused.
      have hinj (a b : Except RangeError Record)
          (hab : a.mapError Failure.outOfRange = b.mapError Failure.outOfRange) : a = b := by
        cases a <;> cases b <;> cases hab <;> rfl
      refine (List.map_inj_right hinj).mp ?_
      rw [List.map_map, List.map_map]
      exact hviews.symm

theorem Page.ofBatches_handedOut {wanted : List FieldName} {parts : Polled}
    (h : ∀ shown ∈ parts.shown wanted, ∃ record, shown = .ok record) :
    ∃ page, Page.ofBatches wanted parts.handedOut = .ok page ∧
      page.items.map .ok = parts.shown wanted := by
  rw [Polled.shown_eq] at h ⊢
  exact Page.ofBatches_ok fun record hrecord => h _ (List.mem_map_of_mem hrecord)

namespace Reader

/-- Every page is a slice of the logs. A read polls its consumer, and its outcome is made from
    the records that this poll has handed out. These are a slice; if all of them can be shown,
    the outcome is the page that shows them. -/
theorem read_slice (h : Documented c k position ready) (hk : k.Proper) (r : Reader) {q : Query}
    {since : Option Instant} {wanted : List FieldName} (hchecks : r.checks q = .ok (since, wanted))
    {ids : List Int} (hids : k.partitions q.topic = some ids) (hne : ids ≠ [])
    (hfilter : ∀ id, q.partition = some id → id ∈ ids)
    (hoffset : ∀ o, q.offset = some o → 0 ≤ o) (hlimit : 1 ≤ q.limit) {s : σ} (hs : ready s) :
    ∃ (parts : Polled) (s' : σ) (events : List Event),
      (r.read c q).run s = (Page.ofBatches wanted parts.handedOut, ⟨s', events⟩) ∧
      Polls r c q since s parts events ∧ Slice k q since parts ∧
      ((∀ shown ∈ parts.shown wanted, ∃ record, shown = .ok record) →
        ∃ page, Page.ofBatches wanted parts.handedOut = .ok page ∧
          page.items.map .ok = parts.shown wanted ∧
          (page.items.length : Int) ≤ q.limit ∧
          page.toJson = .obj [("items", .arr (page.items.map Record.toJson)),
            ("total", .int page.items.length), ("size", .int page.items.length),
            ("page", .int 1)]) := by
  rcases h.create s (some q.limit) hs with ⟨s₀, hcreate, hs₀⟩
  rcases approach_documented h hk since hids hne hfilter hoffset hs₀ with
    ⟨logs, s₁, before, happroach, hlogs, hs₁, hstarts⟩
  rcases h.poll s₁ r.pollTimeout q.limit hs₁ hlimit with
    ⟨parts, s₂, hpoll, hs₂, hdistinct, hbounded, hruns⟩
  rcases logs_documented hk hids hne hfilter with ⟨logs', hlogs', -, hselected⟩
  cases hlogs.symm.trans hlogs'
  have hslice := slice_of_polled hk hselected hstarts hdistinct hbounded hruns
  rcases fetch_of_approach happroach hpoll wanted with ⟨behind, hfetch⟩
  rcases h.close s₂ hs₂ with ⟨s', hclose, -⟩
  have hread := read_created hchecks hcreate (closing_yields hfetch hclose)
  rw [List.append_assoc, List.cons_append] at hread
  refine ⟨parts, s', _, hread.run_eq, .answered hcreate happroach hpoll, hslice,
    fun hshown => ?_⟩
  rcases Page.ofBatches_handedOut hshown with ⟨page, hpage, hitems⟩
  have hlength : page.items.length = parts.total := by
    rw [← Polled.length_shown wanted parts, ← hitems, List.length_map]
  refine ⟨page, hpage, hitems, ?_, rfl⟩
  rw [hlength]
  exact hslice.bounded

/-- A log without its first record and with a gap, whose timestamps do not ascend. -/
def sampleLog : Log :=
  let record (offset : Int) (timestamp : Instant) : StoredRecord :=
    ⟨offset, some timestamp, some 0, none, some [118], none⟩
  ⟨1, 6, [record 1 30, record 3 10, record 4 20]⟩

/-- A broker with a topic of two partitions, one of them empty. -/
def sampleBroker : Broker :=
  { topics := [("t", [(1, Log.empty 5), (0, sampleLog)])], clock := 0, stampsOnAppend := false
    unfound := .absent, pollOrder := none, overdeliver := 0, faults := []
    acknowledgement := .atOnce, positions := [] }

theorem sampleLog_proper : sampleLog.Proper :=
  ⟨by decide, by decide, by decide, by decide, by decide⟩

theorem sampleBroker_proper : sampleBroker.cluster.Proper := by
  refine Broker.cluster_proper fun topic htopic => ?_
  rcases List.mem_singleton.mp htopic with rfl
  refine ⟨by decide, fun log hlog => ?_⟩
  rcases List.mem_cons.mp hlog with rfl | hlog
  · exact ⟨by decide, by decide, by decide, by decide, by decide⟩
  · rcases List.mem_singleton.mp hlog with rfl
    exact sampleLog_proper

/-- A query for the records from an offset on that the log does not have. -/
def sampleQuery : Query :=
  { topic := "t", offset := some 2, limit := 2 }

/-- A read at an offset that was removed shows the records after it, from one log of two. -/
theorem read_slice_gap :
    sampleBroker.cluster.Proper ∧ Broker.Behaves sampleBroker.topics sampleBroker ∧
    Reader.checks ⟨{}, .whole 0⟩ sampleQuery = .ok (none, []) ∧
    ∃ (parts : Polled) (s' : Broker) (events : List Event),
      ((⟨{}, .whole 0⟩ : Reader).read Broker.consumer sampleQuery).run sampleBroker =
        (Page.ofBatches [] parts.handedOut, ⟨s', events⟩) ∧
      Polls ⟨{}, .whole 0⟩ Broker.consumer sampleQuery none sampleBroker parts events ∧
      Slice sampleBroker.cluster sampleQuery none parts ∧
      ((∀ shown ∈ parts.shown [], ∃ record, shown = .ok record) →
        ∃ page, Page.ofBatches [] parts.handedOut = .ok page ∧
          page.items.map .ok = parts.shown [] ∧
          (page.items.length : Int) ≤ sampleQuery.limit ∧
          page.toJson = .obj [("items", .arr (page.items.map Record.toJson)),
            ("total", .int page.items.length), ("size", .int page.items.length),
            ("page", .int 1)]) := by
  have hchecks : Reader.checks ⟨{}, .whole 0⟩ sampleQuery = .ok (none, []) := rfl
  have hready : Broker.Behaves sampleBroker.topics sampleBroker :=
    ⟨rfl, rfl, by decide, rfl, rfl, List.nodup_nil⟩
  have hids : sampleBroker.cluster.partitions sampleQuery.topic = some [1, 0] := by decide
  refine ⟨sampleBroker_proper, hready, hchecks, ?_⟩
  refine read_slice (Broker.documented sampleBroker) sampleBroker_proper _ hchecks hids (by decide)
    (fun id hid => ?_) (fun o ho => ?_) (by decide) hready
  · cases hid
  · cases ho
    decide

end Reader

end RecordGateway
