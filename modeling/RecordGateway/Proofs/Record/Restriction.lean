import RecordGateway.Proofs.Reading.Fields
import RecordGateway.Proofs.Record.Fields
import RecordGateway.Proofs.Time.Range

/-!
# A View Is an Exact and Lazy Restriction

What a view shows, which records it cannot show, and what it does not depend on.

A view has the wanted fields and no others, each holding that field of the record. The timestamp is
the one field with rules of its own. It is left out if the broker did not report it, even if it is
wanted, and it is the only field that may fail to be shown, which it does after the calendar.

Fields that are not wanted are not looked at. That is said of two records: if they agree on the
wanted fields, they are shown in the same way, whatever their other fields hold. A timestamp without
a text does no harm to a view without it.

An empty list asks for all fields. So restricting a view to some of its fields is the view of those
fields only if there are any; the view of none is the view of all.

## Main definitions

* `Record.restrict`: a record with some of its fields.
* `ConsumedRecord.Wants`: the fields that a list asks for.
* `ConsumedRecord.Reports`: the fields that the broker reported.
* `ConsumedRecord.ShownIn`: a shown record holds a field of the consumed one.
* `ConsumedRecord.SameIn`: two consumed records have the same field.

## Theorems

* `ConsumedRecord.view_isOk_iff`: which records can be shown.
* `ConsumedRecord.isSet_of_view`, `ConsumedRecord.shownIn_of_view`: what is shown.
* `ConsumedRecord.view_restrict`: a part of a view is the view of that part.
* `ConsumedRecord.view_sameIn`: only the wanted fields matter.
* `ConsumedRecord.view_exact`: all of this, the fields given by name.
-/

namespace RecordGateway

/-- The record with some of its fields, the others left out. -/
def Record.restrict (kept : List FieldName) (r : Record) : Record :=
  { partition := if .partition ∈ kept then r.partition else .unset
    offset := if .offset ∈ kept then r.offset else .unset
    timestamp := if .timestamp ∈ kept then r.timestamp else .unset
    timestampType := if .timestampType ∈ kept then r.timestampType else .unset
    key := if .key ∈ kept then r.key else .unset
    value := if .value ∈ kept then r.value else .unset
    headers := if .headers ∈ kept then r.headers else .unset }

namespace ConsumedRecord

/-- A list asks for the fields in it, or for all if it is empty. -/
def Wants (wanted : List FieldName) (f : FieldName) : Prop :=
  wanted = [] ∨ f ∈ wanted

/-- The broker reports all fields but a timestamp that is not there or negative. -/
def Reports (r : ConsumedRecord) (f : FieldName) : Prop :=
  f = .timestamp → ∃ t, r.timestamp = some t ∧ 0 ≤ t

/-- A shown record holds a field of the consumed one: the timestamp as its text, the kind of
    timestamp by its name, the headers as a mapping of decoded texts, and a key or a value that is
    null as null. -/
def ShownIn (r : ConsumedRecord) (shown : Record) : FieldName → Prop
  | .partition => shown.partition = .value r.partition
  | .offset => shown.offset = .value r.offset
  | .timestamp => ∃ t text, r.timestamp = some t ∧ t.render = .ok text ∧
      shown.timestamp = .value text
  | .timestampType => shown.timestampType = .value (timestampTypeName r.timestampType)
  | .key => match r.key with
    | some key => shown.key = .value (.ofString key)
    | none => shown.key = .null
  | .value => match r.value with
    | some value => shown.value = .value (.ofString value)
    | none => shown.value = .null
  | .headers => shown.headers = .value (Headers.decode (r.headers.getD []))

/-- Two consumed records have the same field. -/
def SameIn (r s : ConsumedRecord) : FieldName → Prop
  | .partition => r.partition = s.partition
  | .offset => r.offset = s.offset
  | .timestamp => r.timestamp = s.timestamp
  | .timestampType => r.timestampType = s.timestampType
  | .key => r.key = s.key
  | .value => r.value = s.value
  | .headers => r.headers = s.headers

/-- A field is wanted as a list asks for it. -/
theorem isWanted_iff {wanted : List FieldName} {f : FieldName} :
    isWanted wanted f = true ↔ Wants wanted f := by
  rw [isWanted, Bool.or_eq_true, List.isEmpty_iff, List.contains_iff_mem]
  rfl

/-- Of a field that a record has, the view has a slot if it is wanted. -/
theorem isSet_slotIf {α : Type} {wanted : List FieldName} {f : FieldName} {slot : Slot α}
    (h : slot.isSet = true) : (slotIf wanted f slot).isSet = true ↔ Wants wanted f := by
  rw [← isWanted_iff, slotIf]
  by_cases hwanted : isWanted wanted f = true
  · rw [if_pos hwanted, h, hwanted]
  · rw [if_neg hwanted, Slot.isSet_unset]
    exact ⟨fun hset => absurd hset Bool.false_ne_true, fun h => absurd h hwanted⟩

/-- A slot that is there is one that is wanted. -/
theorem slotIf_of_isSet {α : Type} {wanted : List FieldName} {f : FieldName} {slot : Slot α}
    (h : (slotIf wanted f slot).isSet = true) : slotIf wanted f slot = slot := by
  rw [slotIf] at h ⊢
  by_cases hwanted : isWanted wanted f = true
  · exact if_pos hwanted
  · rw [if_neg hwanted, Slot.isSet_unset] at h
    cases h

/-- What a view that succeeds makes of the timestamp. -/
theorem reportedIf_eq_ok {wanted : List FieldName} {r : ConsumedRecord} {slot : Slot String}
    (h : r.reportedIf wanted = .ok slot) :
    (slot.isSet = true ↔ Wants wanted .timestamp ∧ r.Reports .timestamp) ∧
      (slot.isSet = true →
        ∃ t text, r.timestamp = some t ∧ t.render = .ok text ∧ slot = .value text) := by
  rw [← isWanted_iff]
  rw [reportedIf] at h
  by_cases hwanted : isWanted wanted .timestamp = true
  · -- It is wanted, and so it is there if it was reported, with its text.
    rw [if_pos hwanted] at h
    rcases Reported.timestamp_eq_ok h with ⟨hset, htext⟩
    rw [and_iff_right hwanted, Reports, forall_prop_of_true rfl]
    refine ⟨hset, fun hs => ?_⟩
    rcases hset.mp hs with ⟨t, ht, hzero⟩
    rcases htext t ht hzero with ⟨text, hrender, hslot⟩
    exact ⟨t, text, ht, hrender, hslot⟩
  · -- It is not wanted, and not looked at either.
    rw [if_neg hwanted] at h
    cases h
    exact ⟨⟨fun hs => absurd hs Bool.false_ne_true, fun hboth => absurd hboth.1 hwanted⟩,
      fun hs => absurd hs Bool.false_ne_true⟩

/-- A record can be shown unless its timestamp is wanted and lies after the calendar. -/
theorem view_isOk_iff {wanted : List FieldName} {r : ConsumedRecord} :
    (∃ shown, r.view wanted = .ok shown) ↔
      (Wants wanted .timestamp → ∀ t, r.timestamp = some t → t ≤ Instant.last) := by
  rw [view_eq, exists_map_eq_ok_iff, reportedIf, ← isWanted_iff]
  by_cases hwanted : isWanted wanted .timestamp = true
  · rw [if_pos hwanted, Reported.timestamp_isOk_iff, forall_prop_of_true hwanted]
  · rw [if_neg hwanted]
    exact ⟨fun _ h => absurd h hwanted, fun _ => ⟨.unset, rfl⟩⟩

variable {wanted : List FieldName} {r : ConsumedRecord} {shown : Record}

/-- What is shown has the wanted fields that the broker reported. -/
theorem isSet_of_view (h : r.view wanted = .ok shown) (f : FieldName) :
    shown.isSet f = true ↔ Wants wanted f ∧ r.Reports f := by
  rcases view_eq_ok h with ⟨slot, hslot, rfl⟩
  -- The other fields are always reported.
  have hother (hne : f ≠ .timestamp) : Wants wanted f ∧ r.Reports f ↔ Wants wanted f :=
    and_iff_left fun heq => absurd heq hne
  cases f with
  | timestamp => exact (reportedIf_eq_ok hslot).1
  | partition => exact (isSet_slotIf rfl).trans (hother (by decide)).symm
  | offset => exact (isSet_slotIf rfl).trans (hother (by decide)).symm
  | timestampType => exact (isSet_slotIf rfl).trans (hother (by decide)).symm
  | key => exact (isSet_slotIf (Slot.isSet_ofOption _)).trans (hother (by decide)).symm
  | value => exact (isSet_slotIf (Slot.isSet_ofOption _)).trans (hother (by decide)).symm
  | headers => exact (isSet_slotIf rfl).trans (hother (by decide)).symm

/-- Each field that is shown holds that field of the record. -/
theorem shownIn_of_view (h : r.view wanted = .ok shown) {f : FieldName}
    (hset : shown.isSet f = true) : r.ShownIn shown f := by
  rcases view_eq_ok h with ⟨slot, hslot, rfl⟩
  cases f with
  | timestamp => exact (reportedIf_eq_ok hslot).2 hset
  | partition => exact slotIf_of_isSet hset
  | offset => exact slotIf_of_isSet hset
  | timestampType => exact slotIf_of_isSet hset
  -- A key or a value may be null, and then null is shown.
  | key =>
      have hkey : (r.shownAt wanted slot).key = .ofOption (r.key.map .ofString) :=
        slotIf_of_isSet hset
      rw [ShownIn, hkey]
      cases r.key <;> rfl
  | value =>
      have hvalue : (r.shownAt wanted slot).value = .ofOption (r.value.map .ofString) :=
        slotIf_of_isSet hset
      rw [ShownIn, hvalue]
      cases r.value <;> rfl
  | headers => exact slotIf_of_isSet hset

/-- A slot of the view, kept or left out, is the slot of the smaller view. -/
theorem restrict_slotIf {α : Type} {part : List FieldName} {f : FieldName} {slot : Slot α}
    (hsome : part ≠ []) (hpart : ∀ g ∈ part, Wants wanted g) :
    (if f ∈ part then slotIf wanted f slot else .unset) = slotIf part f slot := by
  have hkept : isWanted part f = true ↔ f ∈ part := by
    rw [isWanted_iff, Wants, or_iff_right hsome]
  rw [slotIf, slotIf]
  by_cases hf : f ∈ part
  · rw [if_pos hf, if_pos (isWanted_iff.mpr (hpart f hf)), if_pos (hkept.mpr hf)]
  · rw [if_neg hf, if_neg (mt hkept.mp hf)]

/-- The same of the timestamp, which the smaller view looks at only if the larger one does. -/
theorem restrict_reportedIf {part : List FieldName} {slot : Slot String} (hsome : part ≠ [])
    (hpart : ∀ g ∈ part, Wants wanted g) (h : r.reportedIf wanted = .ok slot) :
    r.reportedIf part = .ok (if .timestamp ∈ part then slot else .unset) := by
  have hkept : isWanted part .timestamp = true ↔ FieldName.timestamp ∈ part := by
    rw [isWanted_iff, Wants, or_iff_right hsome]
  rw [reportedIf] at h ⊢
  by_cases hf : FieldName.timestamp ∈ part
  · rw [if_pos (isWanted_iff.mpr (hpart _ hf))] at h
    rw [if_pos (hkept.mpr hf), if_pos hf, h]
  · rw [if_neg (mt hkept.mp hf), if_neg hf]

/-- If a view is restricted to some of its fields, at least one, it is the view of these fields. -/
theorem view_restrict {part : List FieldName} (h : r.view wanted = .ok shown) (hsome : part ≠ [])
    (hpart : ∀ f ∈ part, Wants wanted f) : r.view part = .ok (shown.restrict part) := by
  rcases view_eq_ok h with ⟨slot, hslot, rfl⟩
  rw [view_eq, restrict_reportedIf hsome hpart hslot]
  refine congrArg Except.ok ?_
  simp only [Record.restrict, shownAt, restrict_slotIf hsome hpart]

/-- What a field holds counts only if the field is wanted. -/
theorem slotIf_congr {α β : Type} {f : FieldName} {a b : α} (slot : α → Slot β)
    (h : Wants wanted f → a = b) : slotIf wanted f (slot a) = slotIf wanted f (slot b) := by
  rw [slotIf, slotIf]
  by_cases hwanted : isWanted wanted f = true
  · rw [h (isWanted_iff.mp hwanted)]
  · rw [if_neg hwanted, if_neg hwanted]

/-- Records that agree on the wanted fields have the same view, and neither has one if the other
    has none. -/
theorem view_sameIn {s : ConsumedRecord} (h : ∀ f, Wants wanted f → r.SameIn s f) :
    r.view wanted = s.view wanted := by
  -- If the timestamp is not wanted, neither view looks at it.
  have htimestamp : r.reportedIf wanted = s.reportedIf wanted := by
    rw [reportedIf, reportedIf]
    by_cases hwanted : isWanted wanted .timestamp = true
    · rw [show r.timestamp = s.timestamp from h .timestamp (isWanted_iff.mp hwanted)]
    · rw [if_neg hwanted, if_neg hwanted]
  have hshown (slot : Slot String) : r.shownAt wanted slot = s.shownAt wanted slot := by
    rw [shownAt, shownAt, slotIf_congr .value (h .partition), slotIf_congr .value (h .offset),
      slotIf_congr (fun kind => .value (timestampTypeName kind)) (h .timestampType),
      slotIf_congr (fun key => .ofOption (key.map LooseText.ofString)) (h .key),
      slotIf_congr (fun value => .ofOption (value.map LooseText.ofString)) (h .value),
      slotIf_congr (fun headers => .value (Headers.decode (headers.getD []))) (h .headers)]
  rw [view_eq, view_eq, htimestamp, funext hshown]

/-- Named fields are viewed as these fields. -/
theorem viewNamed_names (wanted : List FieldName) (r : ConsumedRecord) :
    r.viewNamed (wanted.map FieldName.name) = (r.view wanted).mapError .outOfRange := by
  rw [viewNamed, FieldName.mapM_parse_names]
  rfl

/-- A view of named fields succeeds exactly as the view of these fields does. -/
theorem viewNamed_eq_ok_iff :
    r.viewNamed (wanted.map FieldName.name) = .ok shown ↔ r.view wanted = .ok shown := by
  rw [viewNamed_names]
  cases r.view wanted with
  | error e => simp only [Except.mapError, reduceCtorEq]
  | ok shown' => simp only [Except.mapError, Except.ok.injEq]

/-- A view is an exact and lazy restriction. It fails exactly if the timestamp is wanted and lies
    after the calendar. Otherwise it has the fields that are wanted and reported, each holding that
    field of the record, and a part of it is the view of that part. It depends on the set of the
    wanted fields, and on what the record holds in these fields, and on nothing else. -/
theorem view_exact (wanted : List FieldName) (r : ConsumedRecord) :
    ((∃ failure, r.viewNamed (wanted.map FieldName.name) = .error failure) ↔
      Wants wanted .timestamp ∧ ∃ t, r.timestamp = some t ∧ 253402300799999 < t) ∧
    (∀ shown, r.viewNamed (wanted.map FieldName.name) = .ok shown →
      (∀ f, shown.isSet f = true ↔ Wants wanted f ∧ r.Reports f) ∧
      (∀ f, shown.isSet f = true → r.ShownIn shown f) ∧
      ∀ part, part ≠ [] → (∀ f ∈ part, Wants wanted f) →
        r.viewNamed (part.map FieldName.name) = .ok (shown.restrict part)) ∧
    (∀ same : List FieldName, (∀ f, f ∈ same ↔ f ∈ wanted) →
      r.viewNamed (same.map FieldName.name) = r.viewNamed (wanted.map FieldName.name)) ∧
    ∀ s : ConsumedRecord, (∀ f, Wants wanted f → r.SameIn s f) →
      r.viewNamed (wanted.map FieldName.name) = s.viewNamed (wanted.map FieldName.name) := by
  refine ⟨?_, fun shown h => ?_, fun same hsame => ?_, fun s hs => ?_⟩
  · -- A failure is what is left where no record is shown.
    have hlast (t : Instant) : ¬t ≤ Instant.last ↔ 253402300799999 < t := Int.not_le
    simp only [exists_eq_error_iff, viewNamed_eq_ok_iff, view_isOk_iff, Classical.not_imp,
      Classical.not_forall, hlast]
  · rw [viewNamed_eq_ok_iff] at h
    exact ⟨isSet_of_view h, fun f hf => shownIn_of_view h hf,
      fun part hsome hpart => viewNamed_eq_ok_iff.mpr (view_restrict h hsome hpart)⟩
  · rw [viewNamed_names, viewNamed_names, view_congr hsame]
  · rw [viewNamed_names, viewNamed_names, view_sameIn hs]

/-- A record after the calendar, without a key and with a damaged header, shows its key and
    value. -/
theorem view_exact_after_calendar :
    ∃ r : ConsumedRecord, r.timestamp = some 253402300800000 ∧
      r.headers = some [(.ofString "h", some [0xff])] ∧
      (∃ failure, r.viewNamed [] = .error failure) ∧
      r.viewNamed ["value", "key", "value"] =
        .ok { key := .null, value := .value (.ofString "v") } ∧
      r.viewNamed ["key"] = .ok { key := .null } := by
  let r : ConsumedRecord :=
    { partition := 0, offset := 7, timestamp := some 253402300800000, timestampType := some 0,
      key := none, value := some "v", headers := some [(.ofString "h", some [0xff])] }
  have hshown : r.viewNamed ["value", "key", "value"] =
      .ok { key := .null, value := .value (.ofString "v") } := rfl
  have hpart : ∀ f ∈ [FieldName.key], Wants [.value, .key, .value] f := by
    intro f hf
    rw [List.mem_singleton.mp hf]
    exact .inr (by decide)
  have hfailure := (view_exact [] r).1.mpr ⟨.inl rfl, _, rfl, by decide⟩
  have hexact := (view_exact [.value, .key, .value] r).2.1 _ hshown
  exact ⟨r, rfl, rfl, hfailure, hshown, hexact.2.2 [.key] (by decide) hpart⟩

end ConsumedRecord

end RecordGateway
