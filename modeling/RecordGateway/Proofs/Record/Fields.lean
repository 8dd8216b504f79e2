import RecordGateway.Proofs.Entries
import RecordGateway.Record.Basic
import RecordGateway.Record.FieldName
import RecordGateway.Record.Reported

/-!
# The Fields That a Record Has

A record has some of the seven fields, and a field that it has may hold null. Its JSON form has a
member for each field that is there, in the order of fields, and none for the others. So whoever
looks up a field in the JSON form finds it exactly if the record has it, and finds null exactly if
the record holds null.

## Main definitions

* `Record.isSet`: whether a record has a field.
* `Record.json?`: what the JSON form of a record holds for a field.

## Theorems

* `Reported.timestamp_eq_ok`: what is shown of a reported timestamp.
* `Record.isSome_json?`: the JSON form holds something for the fields that are there.
* `Record.keys_members`: the names in the JSON form are those of the fields that are there.
* `Record.get?_members`: what is found under the name of a field.
-/

namespace RecordGateway

namespace Slot

variable {α : Type}

/-- Whether a field is there, null included. -/
def isSet : Slot α → Bool
  | .unset => false
  | _ => true

/-- What a JSON form holds for a field, if the field is there. -/
def json? (encode : α → Json) : Slot α → Option Json
  | .unset => none
  | .null => some .null
  | .value a => some (encode a)

/-- A JSON form holds something for a field exactly if the field is there. -/
theorem isSome_json? (encode : α → Json) (slot : Slot α) :
    (slot.json? encode).isSome = slot.isSet := by
  cases slot <;> rfl

@[simp] theorem isSet_unset : (unset : Slot α).isSet = false := rfl

@[simp] theorem isSet_value (a : α) : (value a).isSet = true := rfl

@[simp] theorem isSet_ofOption (a : Option α) : (ofOption a).isSet = true := by
  cases a <;> rfl

/-- A field that is there has one name in the JSON form, and one that is not has none. -/
theorem keys_member (key : String) (encode : α → Json) (slot : Slot α) :
    (slot.member key encode).map Prod.fst =
      if slot.isSet then [LooseText.ofString key] else [] := by
  cases slot <;> rfl

/-- Under its name stands what the field holds, and under no other name anything. -/
theorem get?_member (name : LooseText) (key : String) (encode : α → Json) (slot : Slot α) :
    Entries.get? name (slot.member key encode) =
      if LooseText.ofString key = name then slot.json? encode else none := by
  cases slot with
  | unset => exact (ite_self none).symm
  | null => rfl
  | value a => rfl

end Slot

namespace Reported

/-- What is shown of a timestamp that could be shown: its text, if it is not negative. -/
theorem timestamp_eq_ok {reported : Option Instant} {slot : Slot String}
    (h : timestamp reported = .ok slot) :
    (slot.isSet = true ↔ ∃ t, reported = some t ∧ 0 ≤ t) ∧
      ∀ t, reported = some t → 0 ≤ t → ∃ text, t.render = .ok text ∧ slot = .value text := by
  cases reported with
  | none =>
      cases h
      simp
  | some t =>
      -- A negative timestamp is one that the broker did not report.
      by_cases hneg : t < 0
      · rw [timestamp, if_pos hneg] at h
        cases h
        simp [hneg]
      · rw [timestamp, if_neg hneg] at h
        cases hrender : t.render with
        | error e =>
            rw [hrender] at h
            cases h
        | ok text =>
            rw [hrender] at h
            cases h
            have hnonneg : 0 ≤ t := Int.not_lt.mp hneg
            simp [hnonneg, hrender]

end Reported

namespace Record

/-- Whether a record has a field, null included. -/
def isSet (r : Record) : FieldName → Bool
  | .partition => r.partition.isSet
  | .offset => r.offset.isSet
  | .timestamp => r.timestamp.isSet
  | .timestampType => r.timestampType.isSet
  | .key => r.key.isSet
  | .value => r.value.isSet
  | .headers => r.headers.isSet

/-- What the JSON form of a record holds for a field, if the record has it. -/
def json? (r : Record) : FieldName → Option Json
  | .partition => r.partition.json? .int
  | .offset => r.offset.json? .int
  | .timestamp => r.timestamp.json? .text
  | .timestampType => r.timestampType.json? .text
  | .key => r.key.json? .str
  | .value => r.value.json? .str
  | .headers => r.headers.json? Headers.toJson

/-- The JSON form holds something for the fields that are there. -/
theorem isSome_json? (r : Record) (f : FieldName) : (r.json? f).isSome = r.isSet f := by
  cases f <;> exact Slot.isSome_json? _ _

/-- The names in the JSON form are those of the fields that are there, in the order of fields. -/
theorem keys_members (r : Record) :
    r.members.map Prod.fst =
      (FieldName.all.filter r.isSet).map fun f => LooseText.ofString f.name := by
  have hone : ∀ f, ([f].filter r.isSet).map (fun f => LooseText.ofString f.name) =
      if r.isSet f then [LooseText.ofString f.name] else [] := by
    intro f
    cases h : r.isSet f <;> simp [h]
  have hall : FieldName.all = [.partition] ++ [.offset] ++ [.timestamp] ++ [.timestampType] ++
      [.key] ++ [.value] ++ [.headers] := rfl
  -- Both sides are seven lists in a row, one for each field.
  rw [hall]
  simp only [members, List.map_append, List.filter_append, Slot.keys_member, hone]
  rfl

/-- Under the name of a field stands what the record holds for it. -/
theorem get?_members (r : Record) (f : FieldName) :
    Entries.get? (LooseText.ofString f.name) r.members = r.json? f := by
  simp only [members, Entries.get?_append, Slot.get?_member]
  cases f <;> simp [json?, FieldName.name, LooseText.ofString]

end Record

end RecordGateway
