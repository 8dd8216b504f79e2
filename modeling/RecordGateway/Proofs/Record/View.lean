import RecordGateway.Record.View

/-!
# What a View Shows

A view reads each field of a consumed record on its own, and only the timestamp can fail
to be shown. So a view is the record put together from its other fields, once it is known
what becomes of the timestamp.

The wanted fields are asked about one by one, and so a view depends on their set alone and not on
their order or on repeats.

## Main definitions

* `ConsumedRecord.reportedIf`: what a view makes of the timestamp.
* `ConsumedRecord.shownAt`: the record that a view shows, given its timestamp.

## Theorems

* `ConsumedRecord.view_eq`: a view fails or succeeds as its timestamp does.
* `ConsumedRecord.view_eq_ok`: what is shown is shown with what becomes of the timestamp.
* `ConsumedRecord.view_congr`: a view depends on the set of fields.
-/

namespace RecordGateway

namespace ConsumedRecord

/-- The timestamp in a view: not looked at unless it is wanted. -/
def reportedIf (wanted : List FieldName) (r : ConsumedRecord) : Except RangeError (Slot String) :=
  if isWanted wanted .timestamp then Reported.timestamp r.timestamp else .ok .unset

/-- The record that a view shows, given what it shows of the timestamp. -/
def shownAt (wanted : List FieldName) (r : ConsumedRecord) (timestamp : Slot String) : Record :=
  { partition := slotIf wanted .partition (.value r.partition)
    offset := slotIf wanted .offset (.value r.offset)
    timestamp := timestamp
    timestampType := slotIf wanted .timestampType (.value (timestampTypeName r.timestampType))
    key := slotIf wanted .key (.ofOption (r.key.map .ofString))
    value := slotIf wanted .value (.ofOption (r.value.map .ofString))
    headers := slotIf wanted .headers (.value (Headers.decode (r.headers.getD []))) }

/-- A view fails or succeeds as its timestamp does. -/
theorem view_eq (wanted : List FieldName) (r : ConsumedRecord) :
    r.view wanted = (r.reportedIf wanted).map (r.shownAt wanted) := by
  unfold view reportedIf
  -- Whether the timestamp is wanted is asked before it is looked at.
  by_cases htimestamp : isWanted wanted .timestamp
  · simp only [if_pos htimestamp]
    cases Reported.timestamp r.timestamp <;> rfl
  · simp only [if_neg htimestamp]
    rfl

/-- Without names every field is wanted. -/
theorem reportedIf_nil (r : ConsumedRecord) : r.reportedIf [] = Reported.timestamp r.timestamp :=
  rfl

/-- So the view without names shows all fields. -/
theorem shownAt_nil (r : ConsumedRecord) (timestamp : Slot String) :
    r.shownAt [] timestamp =
      { partition := .value r.partition
        offset := .value r.offset
        timestamp := timestamp
        timestampType := .value (timestampTypeName r.timestampType)
        key := .ofOption (r.key.map .ofString)
        value := .ofOption (r.value.map .ofString)
        headers := .value (Headers.decode (r.headers.getD [])) } :=
  rfl

/-- A view that succeeds is put together around what becomes of the timestamp. -/
theorem view_eq_ok {wanted : List FieldName} {r : ConsumedRecord} {shown : Record}
    (h : r.view wanted = .ok shown) :
    ∃ timestamp, r.reportedIf wanted = .ok timestamp ∧ shown = r.shownAt wanted timestamp := by
  rw [view_eq] at h
  cases htimestamp : r.reportedIf wanted with
  | error e =>
      rw [htimestamp] at h
      cases h
  | ok timestamp =>
      rw [htimestamp] at h
      cases h
      exact ⟨timestamp, rfl, rfl⟩

/-- Whether a field is wanted depends on the set, and so does whether there is any wish at all. -/
theorem isWanted_congr {fs gs : List FieldName} (h : ∀ f, f ∈ fs ↔ f ∈ gs) :
    isWanted fs = isWanted gs := by
  -- A list asks for all fields if it is empty, and lists with the same members are empty together.
  have hempty : fs.isEmpty = gs.isEmpty := by
    rw [Bool.eq_iff_iff, List.isEmpty_iff, List.isEmpty_iff, List.eq_nil_iff_forall_not_mem,
      List.eq_nil_iff_forall_not_mem]
    exact forall_congr' fun f => not_congr (h f)
  funext f
  have hmem : fs.contains f = gs.contains f := by
    rw [Bool.eq_iff_iff, List.contains_iff_mem, List.contains_iff_mem]
    exact h f
  rw [isWanted, isWanted, hempty, hmem]

/-- A view depends on the set of fields. -/
theorem view_congr {fs gs : List FieldName} (h : ∀ f, f ∈ fs ↔ f ∈ gs) (r : ConsumedRecord) :
    r.view fs = r.view gs := by
  simp only [view, slotIf, isWanted_congr h]

end ConsumedRecord

end RecordGateway
