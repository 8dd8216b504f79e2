import RecordGateway.Broker.Log

/-!
# Where a Read Begins in a Log

A read is told an instant, an offset, or neither, and a consumer can only be moved to an
offset. So what a reader asks for has to be turned into an offset such that the records
from this offset on are the ones that were asked for.

Offsets ascend in a log, and this is what makes the translation exact. The records from
the offset of a record on are that record and all after it, whatever their timestamps
are: timestamps need not ascend, and a read for an instant takes in later records with
earlier timestamps. The end of a log has no record at or after it, so moving to the end
asks for nothing.

## Main definitions

* `Log.Proper`: a log whose offsets ascend between its beginning and its end.
* `Log.start`: the offset at which a read begins.
* `Log.startingAt`: the records that a read asks for.

## Theorems

* `Log.since_offset`: the records from the offset of a record on.
* `Log.since_start`: moving to the start asks for the right records.
* `Log.since_succ`: the records after one of those from an offset on.
* `Log.start_nonneg`: a consumer can be moved to the start.
-/

namespace RecordGateway

namespace Log

/-- A log whose offsets ascend, none of them before its beginning or at its end. -/
structure Proper (log : Log) : Prop where
  /-- The log does not begin before zero. -/
  first_nonneg : 0 ≤ log.first
  /-- The log does not end before it begins. -/
  first_le_next : log.first ≤ log.next
  /-- Each record has a greater offset than those before it. -/
  ascending : log.records.Pairwise fun a b => a.offset < b.offset
  /-- No record is before the beginning. -/
  first_le : ∀ record ∈ log.records, log.first ≤ record.offset
  /-- The end is above every record. -/
  lt_next : ∀ record ∈ log.records, record.offset < log.next

/-- The offset at which a read begins: that of the first record at or after an instant,
    or else the offset asked for, but neither beyond the end. -/
def start (log : Log) (offset : Option Int) : Option Instant → Int
  | some t => (log.offsetAt t).getD log.next
  | none => match offset with
    | some o => if o ≤ log.next then o else log.next
    | none => log.first

/-- The records that a read asks for: from the first one at or after an instant on, or
    else those at or after an offset, or else all. -/
def startingAt (log : Log) (offset : Option Int) : Option Instant → List StoredRecord
  | some t => log.records.dropWhile fun record => !isAtOrAfter t record
  | none => match offset with
    | some o => log.records.filter fun record => o ≤ record.offset
    | none => log.records

/-- From an offset above every record on, there is nothing. -/
theorem since_of_forall_lt {log : Log} {offset : Int}
    (h : ∀ record ∈ log.records, record.offset < offset) : log.since offset = [] := by
  refine List.filter_eq_nil_iff.mpr fun record hrecord => ?_
  have hlt := h record hrecord
  rw [decide_eq_true_eq]
  omega

theorem since_first {log : Log} (hlog : log.Proper) : log.since log.first = log.records := by
  refine List.filter_eq_self.mpr fun record hrecord => ?_
  exact decide_eq_true (hlog.first_le record hrecord)

/-- The records from the offset of a record on are this record and those after it. -/
theorem since_offset {log : Log} (hlog : log.Proper) {before after : List StoredRecord}
    {record : StoredRecord} (hrecords : log.records = before ++ record :: after) :
    log.since record.offset = record :: after := by
  have hascending := hlog.ascending
  rw [hrecords, List.pairwise_append, List.pairwise_cons] at hascending
  rcases hascending with ⟨-, ⟨hafter, -⟩, hbefore⟩
  -- Offsets ascend, so the filter keeps the record and what follows, and drops the rest.
  have hnone : before.filter (fun r => record.offset ≤ r.offset) = [] := by
    refine List.filter_eq_nil_iff.mpr fun r hr => ?_
    have hlt := hbefore r hr record List.mem_cons_self
    rw [decide_eq_true_eq]
    omega
  have hall : (record :: after).filter (fun r => record.offset ≤ r.offset) = record :: after := by
    refine List.filter_eq_self.mpr fun r hr => decide_eq_true ?_
    rcases List.mem_cons.mp hr with rfl | hr
    · exact Int.le_refl _
    · exact Int.le_of_lt (hafter r hr)
  rw [since, hrecords, List.filter_append, hnone, hall, List.nil_append]

/-- The records from the first one at or after an instant on. -/
theorem since_offsetAt {log : Log} (hlog : log.Proper) (t : Instant) :
    log.since ((log.offsetAt t).getD log.next) =
      log.records.dropWhile fun record => !isAtOrAfter t record := by
  rw [offsetAt]
  cases hfind : log.records.find? (isAtOrAfter t) with
  | none =>
      -- Every record is dropped, and none is at the end of the log or beyond.
      have hall : ∀ record ∈ log.records, (!isAtOrAfter t record) = true := by
        intro record hrecord
        rw [Bool.not_eq_true', Bool.eq_false_iff]
        exact List.find?_eq_none.mp hfind record hrecord
      rw [Option.map_none, Option.getD_none, since_of_forall_lt hlog.lt_next,
        ← List.append_nil log.records, List.dropWhile_append_of_pos hall]
      rfl
  | some record =>
      -- The records before the one found are dropped, and that one is not.
      rcases List.find?_eq_some_iff_append.mp hfind with ⟨hat, before, after, hrecords, hbefore⟩
      rw [Option.map_some, Option.getD_some, since_offset hlog hrecords, hrecords,
        List.dropWhile_append_of_pos hbefore, List.dropWhile_cons_of_neg]
      rw [hat]
      decide

/-- Moving a consumer to the start of a read asks for the records of the read. -/
theorem since_start {log : Log} (hlog : log.Proper) (offset : Option Int)
    (since? : Option Instant) :
    log.since (log.start offset since?) = log.startingAt offset since? := by
  cases since? with
  | some t => exact since_offsetAt hlog t
  | none =>
      cases offset with
      | none => exact since_first hlog
      | some o =>
          rw [start, startingAt]
          by_cases hend : o ≤ log.next
          · simp only [if_pos hend]
            rfl
          · -- Beyond the end there is nothing, at the end neither.
            simp only [if_neg hend]
            rw [since_of_forall_lt hlog.lt_next]
            refine (since_of_forall_lt fun record hrecord => ?_).symm
            have hlt := hlog.lt_next record hrecord
            omega

/-- The records from the offset after that of a record on are those after the record. -/
theorem since_succ {log : Log} (hlog : log.Proper) {offset : Int}
    {before after : List StoredRecord} {record : StoredRecord}
    (hsince : log.since offset = before ++ record :: after) :
    log.since (record.offset + 1) = after := by
  have hoffset : offset ≤ record.offset := by
    have hmem : record ∈ log.since offset := by
      rw [hsince]
      exact List.mem_append_right _ List.mem_cons_self
    exact of_decide_eq_true (List.mem_filter.mp hmem).2
  have hascending : (log.since offset).Pairwise fun a b => a.offset < b.offset :=
    hlog.ascending.filter _
  rw [hsince, List.pairwise_append, List.pairwise_cons] at hascending
  rcases hascending with ⟨-, ⟨hafter, -⟩, hbefore⟩
  -- The later offset is a condition on the records from the earlier one on.
  have htwice : log.since (record.offset + 1) =
      (log.since offset).filter fun r => record.offset + 1 ≤ r.offset := by
    rw [since, since, List.filter_filter]
    refine List.filter_congr fun r _ => ?_
    rw [Bool.eq_iff_iff, Bool.and_eq_true, decide_eq_true_eq, decide_eq_true_eq]
    omega
  have hnone : before.filter (fun r => record.offset + 1 ≤ r.offset) = [] := by
    refine List.filter_eq_nil_iff.mpr fun r hr => ?_
    have hlt := hbefore r hr record List.mem_cons_self
    rw [decide_eq_true_eq]
    omega
  have hall : after.filter (fun r => record.offset + 1 ≤ r.offset) = after := by
    refine List.filter_eq_self.mpr fun r hr => ?_
    have hlt := hafter r hr
    rw [decide_eq_true_eq]
    omega
  rw [htwice, hsince, List.filter_append, hnone, List.nil_append, List.filter_cons_of_neg, hall]
  rw [decide_eq_true_eq]
  omega

/-- A read does not begin before zero. -/
theorem start_nonneg {log : Log} (hlog : log.Proper) {offset : Option Int}
    (hoffset : ∀ o, offset = some o → 0 ≤ o) (since? : Option Instant) :
    0 ≤ log.start offset since? := by
  have hfirst := hlog.first_nonneg
  have hnext := hlog.first_le_next
  cases since? with
  | some t =>
      rw [start, offsetAt]
      cases hfind : log.records.find? (isAtOrAfter t) with
      | none =>
          rw [Option.map_none, Option.getD_none]
          omega
      | some record =>
          have hle := hlog.first_le record (List.mem_of_find?_eq_some hfind)
          rw [Option.map_some, Option.getD_some]
          omega
  | none =>
      cases offset with
      | none => exact hfirst
      | some o =>
          have ho := hoffset o rfl
          simp only [start]
          by_cases hend : o ≤ log.next
          · rw [if_pos hend]
            exact ho
          · rw [if_neg hend]
            omega

end Log

end RecordGateway
