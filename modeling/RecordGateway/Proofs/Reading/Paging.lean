import RecordGateway.Proofs.Reading.Slice
import RecordGateway.Proofs.Record.View

/-!
# Page After Page

A page holds no more records than were asked for, and a caller who wants the rest asks
again, one offset after the last that was shown. This file is about that loop of the
caller. It stops at the first empty page.

Nothing may be lost or shown twice where two pages meet. The start of a read is brought
back to the end of the log, the consumer is moved there, the poll gives what it gives, and
the caller computes the next offset from what was shown. If one of these is off by one, a
single read shows nothing of it.

The argument has one idea for each of the two levels. For a log, the records from the
offset after a record on are those after the record, gaps or not. For a read of a single
partition, the page is a beginning of the records from the offset on, and an empty one
only if there are none. So every read that is not the last takes at least one record off
what remains, and the pages put together are what there was to read.

## Main definitions

* `Query.onward`: the query for the next page.
* `Page.next?`: the offset at which a caller asks again.
* `Paging`: reads that follow each other until a page is empty.

## Theorems

* `Paging.unique`: the pages are determined by the start.
* `Reader.read_onward`: the page of one read.
* `Reader.paging_complete`: the pages put together are all records, each once.
-/

namespace RecordGateway

variable {σ : Type}

/-- The query for at most a number of records from an offset on. -/
def Query.onward (q : Query) (offset limit : Int) : Query :=
  { q with offset := some offset, limit := limit }

/-- The offset at which a caller asks again: one after the last that the page shows. -/
def Page.next? (p : Page) : Option Int :=
  p.items.getLast?.bind fun record => record.offset.toOption.map (· + 1)

/-- Reads that follow each other, each beginning one after the last offset that was shown,
    until a page is empty. The limits may differ from read to read; `n` counts the reads
    so far. -/
inductive Paging (r : Reader) (c : Consumer σ) (q : Query) (limits : Nat → Int) :
    Nat → Int → σ → List Page → σ → Prop
  -- The page is empty, and nothing more is asked for.
  | last {n : Nat} {offset : Int} {s s' : σ} {page : Page} {events : List Event}
      (hread : (r.read c (q.onward offset (limits n))).run s = (.ok page, ⟨s', events⟩))
      (hempty : page.items = []) : Paging r c q limits n offset s [page] s'
  -- There is something on the page, and the rest is asked for.
  | more {n : Nat} {offset next : Int} {s s₁ s' : σ} {page : Page} {pages : List Page}
      {events : List Event}
      (hread : (r.read c (q.onward offset (limits n))).run s = (.ok page, ⟨s₁, events⟩))
      (hnext : page.next? = some next) (hrest : Paging r c q limits (n + 1) next s₁ pages s') :
      Paging r c q limits n offset s (page :: pages) s'

namespace Paging

variable {r : Reader} {c : Consumer σ} {q : Query} {limits : Nat → Int}

/-- An empty page has no last record to go on from. -/
theorem next?_of_empty {page : Page} (hempty : page.items = []) : page.next? = none := by
  rw [Page.next?, hempty]
  rfl

/-- The pages and the world afterwards are determined by the start. -/
theorem unique {n : Nat} {offset : Int} {s s₁ s₂ : σ} {pages₁ pages₂ : List Page}
    (h₁ : Paging r c q limits n offset s pages₁ s₁)
    (h₂ : Paging r c q limits n offset s pages₂ s₂) : pages₁ = pages₂ ∧ s₁ = s₂ := by
  induction h₁ generalizing pages₂ s₂ with
  | last hread hempty =>
      cases h₂ with
      | last hread' _ =>
          rw [hread] at hread'
          cases hread'
          exact ⟨rfl, rfl⟩
      | more hread' hnext' _ =>
          rw [hread] at hread'
          cases hread'
          rw [next?_of_empty hempty] at hnext'
          cases hnext'
  | more hread hnext _ ih =>
      cases h₂ with
      | last hread' hempty' =>
          rw [hread] at hread'
          cases hread'
          rw [next?_of_empty hempty'] at hnext
          cases hnext
      | more hread' hnext' hrest' =>
          rw [hread] at hread'
          cases hread'
          rw [hnext] at hnext'
          cases hnext'
          rcases ih hrest' with ⟨rfl, rfl⟩
          exact ⟨rfl, rfl⟩

end Paging

/-- Whether a reader who asks for these fields is shown offsets. -/
def ShowsOffsets (wanted : List FieldName) : Prop :=
  wanted = [] ∨ FieldName.offset ∈ wanted

namespace ConsumedRecord

/-- A record that is shown with its offset is shown with the offset that it has. -/
theorem offset_of_view {wanted : List FieldName} (hwanted : ShowsOffsets wanted)
    {record : ConsumedRecord} {shown : Record} (hview : record.view wanted = .ok shown) :
    shown.offset = .value record.offset := by
  have hoffset : isWanted wanted .offset = true := by
    rw [isWanted, Bool.or_eq_true, List.isEmpty_iff, List.contains_iff_mem]
    exact hwanted
  rcases view_eq_ok hview with ⟨timestamp, -, rfl⟩
  simp only [shownAt, slotIf, if_pos hoffset]

end ConsumedRecord

/-- After a page that ends with a record, the next offset is the one after it. -/
theorem Page.next?_of_shown {wanted : List FieldName} (hwanted : ShowsOffsets wanted) {page : Page}
    {before : List StoredRecord} {record : StoredRecord} {id : Int}
    (hpage : page.items.map .ok =
      (before ++ [record]).map fun record => (record.consume id).view wanted) :
    page.next? = some (record.offset + 1) := by
  have hlast := congrArg List.getLast? hpage
  rw [List.getLast?_map, List.map_append, List.map_cons, List.map_nil,
    List.getLast?_concat] at hlast
  rcases Option.map_eq_some_iff.mp hlast with ⟨shown, hshown, hview⟩
  have hoffset := ConsumedRecord.offset_of_view hwanted hview.symm
  rw [Page.next?, hshown, Option.bind_some, hoffset]
  rfl

variable {c : Consumer σ} {k : Cluster} {position : σ → TopicPartition → Option Int}
  {ready : σ → Prop}

namespace Reader

/-- Where a read goes on, and how far, is not among the things that are checked. -/
theorem checks_onward (r : Reader) (q : Query) (offset limit : Int) :
    r.checks (q.onward offset limit) = r.checks q := by
  rw [checks_eq, checks_eq]
  rfl

/-- The logs that a filter for one partition selects are the one log. -/
theorem mem_logs_of_filter {topic : String} {ids : List Int} {id : Int} (hid : id ∈ ids)
    {logs : List TopicPartition} (hlogs : Selection.logs topic (some ids) (some id) = .ok logs)
    (name : TopicPartition) : name ∈ logs ↔ name = ⟨topic, id⟩ := by
  rw [(Selection.logs_eq_ok hlogs).2, List.mem_map]
  constructor
  · rintro ⟨other, hother, rfl⟩
    have hadmits := ((Selection.mem_selected other (some ids) (some id)).mp hother).2
    rw [eq_of_beq hadmits]
  · rintro rfl
    exact ⟨id, (Selection.mem_selected id (some ids) (some id)).mpr ⟨hid, beq_self_eq_true id⟩, rfl⟩

/-- A consumer that stands in these logs stands in the one log alone. -/
theorem position_of_filter {topic : String} {ids : List Int} {id : Int} (hid : id ∈ ids)
    {logs : List TopicPartition} (hlogs : Selection.logs topic (some ids) (some id) = .ok logs)
    {start : TopicPartition → Int} {s : σ} (hstands : Stands position logs start s)
    (name : TopicPartition) : position s name =
      if name = ⟨topic, id⟩ then some (start ⟨topic, id⟩) else none := by
  have hmem := mem_logs_of_filter hid hlogs name
  rw [hstands name]
  by_cases hname : name = ⟨topic, id⟩
  · rw [if_pos (hmem.mpr hname), if_pos hname, hname]
  · rw [if_neg fun hin => hname (hmem.mp hin), if_neg hname]

/-- A read of one partition from an offset on shows as many of the records there as were
    asked for, or all of them. -/
theorem read_onward (h : Thorough c k position ready) (hk : k.Proper) (r : Reader) {q : Query}
    {wanted : List FieldName} (hchecks : r.checks q = .ok (none, wanted)) {ids : List Int}
    (hids : k.partitions q.topic = some ids) {id : Int} (hid : id ∈ ids)
    (hpartition : q.partition = some id) {offset limit : Int} (hoffset : 0 ≤ offset)
    (hlimit : 1 ≤ limit)
    (hshown : ∀ record ∈ (k.log ⟨q.topic, id⟩).since offset,
      ∃ shown, (record.consume id).view wanted = .ok shown) {s : σ} (hs : ready s) :
    ∃ page s' events, (r.read c (q.onward offset limit)).run s = (.ok page, ⟨s', events⟩) ∧
      ready s' ∧ page.items.map .ok =
        (((k.log ⟨q.topic, id⟩).since offset).take limit.toNat).map fun record =>
          (record.consume id).view wanted := by
  have hdocumented := h.toDocumented
  have hfilter : ∀ id', (q.onward offset limit).partition = some id' → id' ∈ ids := by
    intro id' hid'
    have heq : id = id' := Option.some.inj (hpartition.symm.trans hid')
    rwa [← heq]
  have hfrom : ∀ o, (q.onward offset limit).offset = some o → 0 ≤ o := by
    intro o ho
    rwa [← Option.some.inj ho]
  rcases hdocumented.create s (some limit) hs with ⟨s₀, hcreate, hs₀⟩
  rcases approach_documented hdocumented hk none (q := q.onward offset limit) hids
    (List.ne_nil_of_mem hid) hfilter hfrom hs₀ with
    ⟨logs, s₁, before, happroach, hlogs, hs₁, hstands⟩
  -- The consumer stands in the one log, where the start asks for the records from the
  -- offset on.
  have hknows : k.Knows ⟨q.topic, id⟩ := ⟨ids, hids, hid⟩
  have hproper := hk.logs _ hknows
  have hone : ∀ name, position s₁ name = if name = ⟨q.topic, id⟩ then
      some ((k.log ⟨q.topic, id⟩).start (some offset) none) else none :=
    position_of_filter hid (hpartition ▸ hlogs) hstands
  have hstart : (k.log ⟨q.topic, id⟩).since ((k.log ⟨q.topic, id⟩).start (some offset) none) =
      (k.log ⟨q.topic, id⟩).since offset := Log.since_start hproper (some offset) none
  rcases h.full s₁ r.pollTimeout limit ⟨q.topic, id⟩ _ hs₁ hlimit hknows hone with
    ⟨batches, s₂, hpoll, hs₂, hbatches⟩
  rw [hstart] at hbatches
  rcases fetch_of_approach happroach hpoll wanted with ⟨behind, hes⟩
  have hviews : ∀ record ∈ batches.flatMap Prod.snd, ∃ shown, record.view wanted = .ok shown := by
    intro record hrecord
    rw [hbatches] at hrecord
    rcases List.mem_map.mp hrecord with ⟨stored, hstored, rfl⟩
    exact hshown stored (List.mem_of_mem_take hstored)
  rcases Page.ofBatches_ok hviews with ⟨page, hpage, hitems⟩
  rcases hdocumented.close s₂ hs₂ with ⟨s₃, hclose, hs₃⟩
  rw [hpage] at hes
  have hread := read_created ((checks_onward r q offset limit).trans hchecks) hcreate
    (closing_yields hes hclose)
  refine ⟨page, s₃, _, hread.run_eq, hs₃, ?_⟩
  rw [hitems, hbatches, List.map_map]
  rfl

/-- The pages from an offset on, by induction on how many records there are from it on. -/
theorem paging_exists (h : Thorough c k position ready) (hk : k.Proper) (r : Reader) {q : Query}
    {wanted : List FieldName} (hchecks : r.checks q = .ok (none, wanted))
    (hwanted : ShowsOffsets wanted) {ids : List Int} (hids : k.partitions q.topic = some ids)
    {id : Int} (hid : id ∈ ids) (hpartition : q.partition = some id) {limits : Nat → Int}
    (hlimits : ∀ n, 1 ≤ limits n) (remaining : Nat) :
    ∀ (n : Nat) (offset : Int) (s : σ), 0 ≤ offset → ready s →
      ((k.log ⟨q.topic, id⟩).since offset).length = remaining →
      (∀ record ∈ (k.log ⟨q.topic, id⟩).since offset,
        ∃ shown, (record.consume id).view wanted = .ok shown) →
      ∃ pages s', Paging r c q limits n offset s pages s' ∧
        (pages.flatMap Page.items).map .ok =
          ((k.log ⟨q.topic, id⟩).since offset).map fun record =>
            (record.consume id).view wanted := by
  have hproper := hk.logs ⟨q.topic, id⟩ ⟨ids, hids, hid⟩
  induction remaining using Nat.strongRecOn with
  | ind remaining ih =>
    intro n offset s hoffset hs hlength hshown
    rcases read_onward h hk r hchecks hids hid hpartition hoffset (hlimits n) hshown hs with
      ⟨page, s₁, events, hread, hs₁, hitems⟩
    rcases List.eq_nil_or_concat (((k.log ⟨q.topic, id⟩).since offset).take (limits n).toNat) with
      hnone | ⟨before, record, hrun⟩
    · -- Nothing is on the page, although something was asked for, so there is nothing.
      have hpos := hlimits n
      have hempty : (k.log ⟨q.topic, id⟩).since offset = [] := by
        rcases List.take_eq_nil_iff.mp hnone with hzero | hnil
        · omega
        · exact hnil
      rw [hnone, List.map_nil, List.map_eq_nil_iff] at hitems
      refine ⟨[page], s₁, .last hread hitems, ?_⟩
      rw [List.flatMap_cons, List.flatMap_nil, List.append_nil, hitems, hempty]
      rfl
    · -- The page ends with a record, and the records after it remain.
      rw [List.concat_eq_append] at hrun
      have hsplit : (k.log ⟨q.topic, id⟩).since offset =
          before ++ record :: ((k.log ⟨q.topic, id⟩).since offset).drop (limits n).toNat := by
        have hparts := List.take_append_drop (limits n).toNat
          ((k.log ⟨q.topic, id⟩).since offset)
        rw [hrun, List.append_assoc] at hparts
        exact hparts.symm
      have hrest := Log.since_succ hproper hsplit
      have hmem : record ∈ (k.log ⟨q.topic, id⟩).since offset := by
        rw [hsplit]
        exact List.mem_append_right _ List.mem_cons_self
      have hle : offset ≤ record.offset := of_decide_eq_true (List.mem_filter.mp hmem).2
      have hnext := Page.next?_of_shown hwanted (hrun ▸ hitems)
      have hfewer : ((k.log ⟨q.topic, id⟩).since (record.offset + 1)).length < remaining := by
        have hlengths := congrArg List.length hsplit
        rw [List.length_append, List.length_cons, ← hrest] at hlengths
        omega
      have hshown' : ∀ r ∈ (k.log ⟨q.topic, id⟩).since (record.offset + 1),
          ∃ shown, (r.consume id).view wanted = .ok shown := by
        intro r hr
        rw [hrest] at hr
        exact hshown r (List.mem_of_mem_drop hr)
      rcases ih _ hfewer (n + 1) (record.offset + 1) s₁ (by omega) hs₁ rfl hshown' with
        ⟨pages, s', hpages, hconcat⟩
      refine ⟨page :: pages, s', .more hread hnext hpages, ?_⟩
      rw [List.flatMap_cons, List.map_append, hitems, hconcat, hrest, ← List.map_append,
        List.take_append_drop]

/-- Reading page after page, from any offset and with any limits, comes to an end, and the
    pages put together show every record of the partition from the offset on, in the order
    of the log and each once. -/
theorem paging_complete (h : Thorough c k position ready) (hk : k.Proper) (r : Reader) {q : Query}
    {wanted : List FieldName} (hchecks : r.checks q = .ok (none, wanted))
    (hwanted : ShowsOffsets wanted) {ids : List Int} (hids : k.partitions q.topic = some ids)
    {id : Int} (hid : id ∈ ids) (hpartition : q.partition = some id) {limits : Nat → Int}
    (hlimits : ∀ n, 1 ≤ limits n) {offset : Int} (hoffset : 0 ≤ offset)
    (hshown : ∀ record ∈ (k.log ⟨q.topic, id⟩).since offset,
      ∃ shown, (record.consume id).view wanted = .ok shown) {s : σ} (hs : ready s) :
    ∃ pages s', Paging r c q limits 0 offset s pages s' ∧
      (∀ pages' s'', Paging r c q limits 0 offset s pages' s'' → pages' = pages ∧ s'' = s') ∧
      (pages.flatMap Page.items).map .ok =
        ((k.log ⟨q.topic, id⟩).records.filter fun record => offset ≤ record.offset).map
          fun record => (record.consume id).view wanted := by
  rcases paging_exists h hk r hchecks hwanted hids hid hpartition hlimits _ 0 offset s hoffset hs
    rfl hshown with ⟨pages, s', hpages, hconcat⟩
  exact ⟨pages, s', hpages, fun pages' s'' hpages' => hpages'.unique hpages, hconcat⟩

/-- A query for offsets and values of one partition. -/
def sampleColumns : Query :=
  { topic := "t", partition := some 0, fields := ["offset", "value"] }

/-- From the gap of the sample log on, with one record on each page. -/
theorem paging_across_gap :
    Thorough Broker.consumer sampleBroker.cluster Broker.position
      (Broker.Behaves sampleBroker.topics) ∧
    sampleBroker.cluster.Proper ∧ Broker.Behaves sampleBroker.topics sampleBroker ∧
    Reader.checks ⟨{}, .whole 0⟩ sampleColumns = .ok (none, [.offset, .value]) ∧
    ShowsOffsets [.offset, .value] ∧
    ∃ pages s', Paging ⟨{}, .whole 0⟩ Broker.consumer sampleColumns (fun _ => 1) 0 2 sampleBroker
        pages s' ∧
      (∀ pages' s'', Paging ⟨{}, .whole 0⟩ Broker.consumer sampleColumns (fun _ => 1) 0 2
        sampleBroker pages' s'' → pages' = pages ∧ s'' = s') ∧
      (pages.flatMap Page.items).map .ok =
        ((sampleBroker.cluster.log ⟨"t", 0⟩).records.filter fun record => 2 ≤ record.offset).map
          fun record => (record.consume 0).view [.offset, .value] := by
  have hthorough := Broker.thorough sampleBroker
  have hready : Broker.Behaves sampleBroker.topics sampleBroker :=
    ⟨rfl, rfl, by decide, rfl, rfl, List.nodup_nil⟩
  have hchecks : Reader.checks ⟨{}, .whole 0⟩ sampleColumns = .ok (none, [.offset, .value]) := rfl
  have hwanted : ShowsOffsets [.offset, .value] := Or.inr List.mem_cons_self
  have hids : sampleBroker.cluster.partitions sampleColumns.topic = some [1, 0] := by decide
  refine ⟨hthorough, sampleBroker_proper, hready, hchecks, hwanted, ?_⟩
  have hlimits : ∀ n : Nat, 1 ≤ (fun _ : Nat => (1 : Int)) n := fun _ => Int.le_refl 1
  -- Neither field can fail to be shown.
  exact paging_complete hthorough sampleBroker_proper _ hchecks hwanted hids (by decide) rfl
    hlimits (by decide) (fun record _ => ⟨_, rfl⟩) hready

end Reader

end RecordGateway
