import Mathlib.Data.List.Nodup
import Mathlib.Data.List.Perm.Subperm
import Mathlib.Tactic.Simproc.ExistsAndEq
import RecordGateway.Form.Documents
import RecordGateway.Proofs.Entries
import RecordGateway.Proofs.Form.Parts
import RecordGateway.Proofs.Record.Fields
import RecordGateway.Request.Read
import RecordGateway.Request.Write

/-!
# Forms That Are Taken Back

Checks take numbers in many spellings, drop repeats from sets and ignore members that they do not
know. So what passed is not what was given. But it is settled: written out again from the fields
that were given, it passes once more, as the same.

That is shown from the inside out. A rule is a check of values with a way to write what passed and
the bounds that it lies within, such that whatever lies within the bounds passes as it is written.
A member of a form that follows a rule is there, is null or is left out, and the written form tells
these three apart. A form all of whose members are of this kind is taken back.

## Main definitions

* `Rule`: a check of values, and what passed written so that it passes again.
* `SameState`: what two objects hold for a member is left out, null or neither alike.
* `WrittenField`: a field of a form that is taken back.
* `TakenBack`: a form that is taken back, its bounds and the names of its fields.
* `ReadRequest.InBounds`, `WriteRequest.InBounds`, `ProblemForm.InBounds`: the bounds of forms.

## Theorems

* `takenBack_of_fields`: a form is taken back if its fields are.
* `forms_taken_back`: requests and documents are taken back.
-/

namespace RecordGateway

variable {α β : Type}

/-- A string can be read off the text that it is, so different strings are different texts. -/
theorem LooseText.ofString_injective : Function.Injective LooseText.ofString := by
  intro s t h
  rw [← toString_ofString s, h, toString_ofString]

/-- A kind of value: how it is checked and how it is written, such that whatever lies within its
    bounds passes as it is written. -/
structure Rule (α : Type) where
  /-- The check. -/
  check : Json → Checked α
  /-- How a value is written. -/
  write : α → Json
  /-- The bounds. -/
  Within : α → Prop
  within : ∀ {v a}, check v = .good a → Within a
  again : ∀ {a}, Within a → check (write a) = .good a
  refuses_null : ∀ {a}, check .null ≠ .good a

namespace Rule

/-- A value within bounds is not written as null. -/
theorem write_ne_null (rule : Rule α) {a : α} (h : rule.Within a) : rule.write a ≠ .null := by
  intro hnull
  -- If it were null it would pass as null, and a rule lets no null pass.
  have hagain := rule.again h
  rw [hnull] at hagain
  exact rule.refuses_null hagain

/-- Any text. -/
def looseText : Rule LooseText where
  check := Field.looseText
  write := .str
  Within := fun _ => True
  within := fun _ => trivial
  again := fun _ => rfl
  refuses_null := nofun

/-- A string that is not empty. -/
def nonemptyString : Rule String where
  check := Field.nonemptyString
  write := .text
  Within := (· ≠ "")
  within := by
    intro v s h
    rcases Checked.andThen_eq_good_iff.mp h with ⟨s', -, hs'⟩
    rcases Checked.ite_complain_eq_good_iff.mp hs' with ⟨hne, rfl⟩
    exact hne
  again := fun hne => Checked.andThen_eq_good_iff.mpr
    ⟨_, Field.string_text _, Checked.ite_complain_eq_good_iff.mpr ⟨hne, rfl⟩⟩
  refuses_null := nofun

/-- An integer, in any of its spellings. -/
def integer : Rule Int where
  check := Field.integer
  write := .int
  Within := fun _ => True
  within := fun _ => trivial
  again := fun _ => rfl
  refuses_null := nofun

/-- An integer that is not below a bound. -/
def atLeast (bound : Int) (rule : Rule Int) : Rule Int where
  check := Field.atLeast bound rule.check
  write := rule.write
  Within := fun n => rule.Within n ∧ bound ≤ n
  within := fun h => (Field.atLeast_eq_good_iff.mp h).imp_left rule.within
  again := fun h => Field.atLeast_eq_good_iff.mpr (h.imp_left rule.again)
  refuses_null := fun h => rule.refuses_null (Field.atLeast_eq_good_iff.mp h).1

/-- An integer that is not above a bound. -/
def atMost (bound : Int) (rule : Rule Int) : Rule Int where
  check := Field.atMost bound rule.check
  write := rule.write
  Within := fun n => rule.Within n ∧ n ≤ bound
  within := fun h => (Field.atMost_eq_good_iff.mp h).imp_left rule.within
  again := fun h => Field.atMost_eq_good_iff.mpr (h.imp_left rule.again)
  refuses_null := fun h => rule.refuses_null (Field.atMost_eq_good_iff.mp h).1

/-- A list of anything. -/
def anyList : Rule (List Json) where
  check := Field.anyList
  write := .arr
  Within := fun _ => True
  within := fun _ => trivial
  again := fun _ => rfl
  refuses_null := nofun

/-- Headers that are written as texts pass as they are. By induction on the headers. -/
theorem mapping_texts (headers : Headers) :
    Checked.mapping Field.looseText (headers.map fun header => (header.1, .str header.2)) =
      .good headers := by
  induction headers with
  | nil => rfl
  | cons header rest ih =>
      rw [List.map_cons, Checked.mapping, ih]
      rfl

/-- A mapping from names to texts. -/
def headers : Rule Headers where
  check := Field.headers
  write := Headers.toJson
  Within := fun _ => True
  within := fun _ => trivial
  again := fun _ => mapping_texts _
  refuses_null := nofun

/-- A set of fields is a part of all fields in their order, so putting it in order changes
    nothing. -/
theorem canonical_of_sublist {fields : List FieldName} (h : fields.Sublist FieldName.all) :
    Field.canonical fields = fields := by
  -- The order is that of all fields, and the filter keeps every field of the set.
  have hself : fields.filter fields.contains = fields :=
    List.filter_eq_self.mpr fun f hf => List.contains_iff_mem.mpr hf
  have hsublist : fields.Sublist (Field.canonical fields) := by
    have hfilter := h.filter fields.contains
    rwa [hself] at hfilter
  -- Both have the same members and no repeats, so neither is longer.
  have hnodup : (Field.canonical fields).Nodup := List.Nodup.filter _ (by decide)
  have hsubset : Field.canonical fields ⊆ fields := by
    intro f hf
    exact List.contains_iff_mem.mp (List.mem_filter.mp hf).2
  exact (hsublist.eq_of_length_le (hnodup.subperm hsubset).length_le).symm

/-- Names of fields pass as these fields, wherever in the list they stand. -/
theorem listFrom_names (n : Nat) (fields : List FieldName) :
    Checked.listFrom Field.fieldName n (fields.map fun f => .text f.name) = .good fields := by
  induction fields generalizing n with
  | nil => rfl
  | cons f rest ih =>
      -- A name is read back as the field that it names.
      have hf : Field.fieldName (.text f.name) = .good f := by
        simp only [Field.fieldName, Json.text, LooseText.toString?_ofString, Option.bind_some,
          FieldName.ofName?_name]
      rw [List.map_cons, Checked.listFrom, ih, hf]
      rfl

/-- A set of fields. -/
def fieldNames : Rule (List FieldName) where
  check := Field.fieldNames
  write := fun fields => .arr (fields.map fun f => .text f.name)
  Within := fun fields => fields.Sublist FieldName.all
  within := by
    intro v fields h
    cases v with
    | arr xs =>
        -- What the names are does not matter: the order keeps only fields that there are, each
        -- once.
        rcases Checked.map_eq_good_iff.mp h with ⟨named, -, rfl⟩
        exact List.filter_sublist
    | _ => cases h
  again := by
    intro fields h
    rw [Field.fieldNames, Checked.list, listFrom_names]
    exact congrArg Checked.good (canonical_of_sublist h)
  refuses_null := nofun

end Rule

/-- What two objects hold for a member is left out in both or in neither, and null in both or in
    neither. -/
def SameState (x y : Option Json) : Prop :=
  (x.isSome = y.isSome) ∧ (x = some .null ↔ y = some .null)

/-- What passed a rule is there and not null, both as it was given and as it is written. -/
theorem Rule.sameState (rule : Rule α) {v : Json} {a : α} (h : rule.check v = .good a) :
    SameState (some (rule.write a)) (some v) := by
  have hwrite := rule.write_ne_null (rule.within h)
  -- Null does not pass, so what passed was not null.
  have hv : v ≠ .null := by
    rintro rfl
    exact rule.refuses_null h
  exact ⟨rfl, iff_of_false (hwrite ∘ Option.some.inj) (hv ∘ Option.some.inj)⟩

/-- A field of a form that is taken back: if it is written as the form keeps it, it passes as the
    same. -/
structure WrittenField (α : Type) where
  /-- What the form keeps for the field. -/
  {value : Type}
  /-- The name of the field. -/
  key : String
  /-- The check of the field, given all members. -/
  part : Json.Members → Checked value
  /-- Where the form keeps the field. -/
  get : α → value
  /-- How the field is written, if it is there. -/
  shown : value → Option Json
  /-- The bounds. -/
  Within : value → Prop
  within : ∀ {members a}, part members = .good a → Within a
  state : ∀ {members a}, part members = .good a →
    SameState (shown a) (Entries.get? (LooseText.ofString key) members)
  again : ∀ {members a}, Within a → Entries.get? (LooseText.ofString key) members = shown a →
    part members = .good a

namespace WrittenField

/-- A member that has to be there passes exactly if it is there and passes its check. -/
theorem required_eq_good_iff {key : String} {check : Json → Checked β} {members : Json.Members}
    {b : β} : RecordGateway.required key check members = .good b ↔
      ∃ v, Entries.get? (LooseText.ofString key) members = some v ∧ check v = .good b := by
  unfold RecordGateway.required
  cases Entries.get? (LooseText.ofString key) members with
  | none => exact iff_of_false nofun nofun
  | some v =>
      rw [Checked.under_eq_good_iff]
      exact ⟨fun h => ⟨v, rfl, h⟩, by rintro ⟨_, ⟨⟩, h⟩; exact h⟩

/-- A member that may be left out passes as nothing if it is, and by its check if it is not. -/
theorem optional_eq_good_iff {key : String} {check : Json → Checked β} {members : Json.Members}
    {given : Option β} : RecordGateway.optional key check members = .good given ↔
      (Entries.get? (LooseText.ofString key) members = none ∧ given = none) ∨
      ∃ v b, Entries.get? (LooseText.ofString key) members = some v ∧ check v = .good b ∧
        given = some b := by
  unfold RecordGateway.optional
  cases Entries.get? (LooseText.ofString key) members with
  | none =>
      rw [Checked.good.injEq, eq_comm]
      exact ⟨fun h => Or.inl ⟨rfl, h⟩, by rintro (⟨-, h⟩ | ⟨_, _, ⟨⟩, -⟩); exact h⟩
  | some v =>
      refine Checked.map_eq_good_iff.trans ?_
      simp only [Checked.under_eq_good_iff]
      constructor
      · rintro ⟨b, hb, rfl⟩
        exact Or.inr ⟨v, b, rfl, hb, rfl⟩
      · rintro (⟨⟨⟩, -⟩ | ⟨_, b, ⟨⟩, hb, rfl⟩)
        exact ⟨b, hb, rfl⟩

/-- A member that may be null passes in one of three ways, which the slot tells apart: it is left
    out, it is null, or it passes its check. -/
theorem nullable_eq_good_iff {key : String} {check : Json → Checked β} {members : Json.Members}
    {slot : Slot β} : RecordGateway.nullable key check members = .good slot ↔
      (Entries.get? (LooseText.ofString key) members = none ∧ slot = .unset) ∨
      (Entries.get? (LooseText.ofString key) members = some .null ∧ slot = .null) ∨
      ∃ v b, Entries.get? (LooseText.ofString key) members = some v ∧ v ≠ .null ∧
        check v = .good b ∧ slot = .value b := by
  unfold RecordGateway.nullable
  cases Entries.get? (LooseText.ofString key) members with
  | none =>
      rw [Checked.good.injEq, eq_comm]
      exact ⟨fun h => Or.inl ⟨rfl, h⟩, by
        rintro (⟨-, h⟩ | ⟨⟨⟩, -⟩ | ⟨_, _, ⟨⟩, -⟩); exact h⟩
  | some v =>
      -- Null is looked for before the check, which is of no account for it.
      by_cases hnull : v = .null
      · subst hnull
        change Checked.good Slot.null = .good slot ↔ _
        rw [Checked.good.injEq, eq_comm]
        exact ⟨fun h => Or.inr (Or.inl ⟨rfl, h⟩), by
          rintro (⟨⟨⟩, -⟩ | ⟨-, h⟩ | ⟨_, _, ⟨⟩, hne, -⟩)
          · exact h
          · exact absurd rfl hne⟩
      · have horNull : Field.orNull check v = some <$> check v := by
          cases v <;> first | exact absurd rfl hnull | rfl
        refine Checked.map_eq_good_iff.trans ?_
        simp only [Checked.under_eq_good_iff, horNull, Checked.map_eq_good_iff]
        constructor
        · rintro ⟨_, ⟨b, hb, rfl⟩, rfl⟩
          exact Or.inr (Or.inr ⟨v, b, rfl, hnull, hb, rfl⟩)
        · rintro (⟨⟨⟩, -⟩ | ⟨⟨⟩, -⟩ | ⟨_, b, ⟨⟩, -, hb, rfl⟩)
          · exact absurd rfl hnull
          · exact ⟨_, ⟨b, hb, rfl⟩, rfl⟩

/-- A member that has to be there. -/
def required (key : String) (rule : Rule β) (get : α → β) : WrittenField α where
  key := key
  part := RecordGateway.required key rule.check
  get := get
  shown := fun b => some (rule.write b)
  Within := rule.Within
  within := by
    intro members b h
    rcases required_eq_good_iff.mp h with ⟨v, -, hv⟩
    exact rule.within hv
  state := by
    -- What is there and passed is not null, and neither is what is written.
    intro members b h
    rcases required_eq_good_iff.mp h with ⟨v, hget, hv⟩
    rw [hget]
    exact rule.sameState hv
  again := fun hwithin hget => required_eq_good_iff.mpr ⟨_, hget, rule.again hwithin⟩

/-- A member that may be left out, but not be null. -/
def optional (key : String) (rule : Rule β) (get : α → Option β) : WrittenField α where
  key := key
  part := RecordGateway.optional key rule.check
  get := get
  shown := Option.map rule.write
  Within := fun given => ∀ b, given = some b → rule.Within b
  within := by
    rintro members _ h b rfl
    rcases optional_eq_good_iff.mp h with ⟨-, hnone⟩ | ⟨_, _, -, hv, ⟨⟩⟩
    · cases hnone
    · exact rule.within hv
  state := by
    intro members given h
    rcases optional_eq_good_iff.mp h with ⟨hget, rfl⟩ | ⟨v, b, hget, hv, rfl⟩
    · -- Left out, and nothing is written.
      rw [hget]
      exact ⟨rfl, iff_of_false nofun nofun⟩
    · rw [hget]
      exact rule.sameState hv
  again := by
    intro members given hwithin hget
    -- Nothing is written for what is not there, so the member is left out again.
    cases given with
    | none => exact optional_eq_good_iff.mpr (Or.inl ⟨hget, rfl⟩)
    | some b =>
        exact optional_eq_good_iff.mpr (Or.inr ⟨_, b, hget, rule.again (hwithin b rfl), rfl⟩)

/-- A member that may be left out and may be null. -/
def nullable (key : String) (rule : Rule β) (get : α → Slot β) : WrittenField α where
  key := key
  part := RecordGateway.nullable key rule.check
  get := get
  shown := Slot.json? rule.write
  Within := fun slot => ∀ b, slot = .value b → rule.Within b
  within := by
    rintro members _ h b rfl
    rcases nullable_eq_good_iff.mp h with ⟨-, ⟨⟩⟩ | ⟨-, ⟨⟩⟩ | ⟨_, _, -, -, hv, ⟨⟩⟩
    exact rule.within hv
  state := by
    -- Each of the three ways is written as it was found.
    intro members slot h
    rcases nullable_eq_good_iff.mp h with ⟨hget, rfl⟩ | ⟨hget, rfl⟩ | ⟨v, b, hget, -, hv, rfl⟩
    · rw [hget]
      exact ⟨rfl, iff_of_false nofun nofun⟩
    · rw [hget]
      exact ⟨rfl, Iff.rfl⟩
    · rw [hget]
      exact rule.sameState hv
  again := by
    intro members slot hwithin hget
    -- And each of the three is read back as the slot that was written.
    cases slot with
    | unset => exact nullable_eq_good_iff.mpr (Or.inl ⟨hget, rfl⟩)
    | null => exact nullable_eq_good_iff.mpr (Or.inr (Or.inl ⟨hget, rfl⟩))
    | value b =>
        have hb := hwithin b rfl
        exact nullable_eq_good_iff.mpr
          (Or.inr (Or.inr ⟨_, b, hget, rule.write_ne_null hb, rule.again hb, rfl⟩))

/-- The members that are written for the fields that are there. -/
def members (fields : List (WrittenField α)) (a : α) : Json.Members :=
  fields.flatMap fun f =>
    ((f.shown (f.get a)).map fun v => (LooseText.ofString f.key, v)).toList

/-- The members that are written are named for the fields that are there, in their order. By
    induction on the fields. -/
theorem keys_members (fields : List (WrittenField α)) (a : α) :
    (members fields a).map Prod.fst =
      (fields.filter fun f => (f.shown (f.get a)).isSome).map fun f => .ofString f.key := by
  induction fields with
  | nil => rfl
  | cons f rest ih =>
      rw [members, List.flatMap_cons, List.map_append, ← members, ih, List.filter_cons]
      cases f.shown (f.get a) <;> rfl

/-- Under the name of a field stands how it is written. -/
theorem get?_members {fields : List (WrittenField α)} (hnodup : (fields.map key).Nodup) (a : α)
    {f : WrittenField α} (hf : f ∈ fields) :
    Entries.get? (.ofString f.key) (members fields a) = f.shown (f.get a) := by
  -- The members are the entries of all fields, those left out where nothing is shown, and the
  -- names of the fields are all different.
  let entry (f : WrittenField α) : LooseText × Option Json := (.ofString f.key, f.shown (f.get a))
  have hkeys : ((fields.map entry).map Prod.fst).Nodup := by
    rw [List.map_map]
    have hmap := hnodup.map LooseText.ofString_injective
    rwa [List.map_map] at hmap
  have hget := Entries.get?_filterMap_of_mem hkeys (fun _ shown => shown) (List.mem_map_of_mem hf)
  rwa [List.filterMap_eq_flatMap_toList, List.flatMap_map] at hget

end WrittenField

/-- A form is taken back. It passes exactly with what lies within its bounds. What passed with some
    members passes again with the members that are written for it, as the same; these are the
    fields that were given, and those are null that were given as null. -/
structure TakenBack (names : List String) (check : Json.Members → Checked α)
    (members : α → Json.Members) (Within : α → Prop) : Prop where
  passes_iff : ∀ a, (∃ given, check given = .good a) ↔ Within a
  again : ∀ given a, check given = .good a → check (members a) = .good a
  keys : ∀ given a, check given = .good a →
    (members a).map Prod.fst =
      (names.filter fun name => (Entries.get? (.ofString name) given).isSome).map .ofString
  nulls : ∀ given a, check given = .good a → ∀ name ∈ names,
    (Entries.get? (.ofString name) (members a) = some .null ↔
      Entries.get? (.ofString name) given = some .null)

/-- A form is taken back if its fields are. -/
theorem takenBack_of_fields {fields : List (WrittenField α)}
    {check : Json.Members → Checked α} {members : α → Json.Members} {Within : α → Prop}
    (hnodup : (fields.map WrittenField.key).Nodup)
    (hcheck : ∀ given a, check given = .good a ↔ ∀ f ∈ fields, f.part given = .good (f.get a))
    (hmembers : ∀ a, members a = WrittenField.members fields a)
    (hwithin : ∀ a, Within a ↔ ∀ f ∈ fields, f.Within (f.get a)) :
    TakenBack (fields.map WrittenField.key) check members Within := by
  -- Everything goes field by field. What passed is within the bounds of each field.
  have hbounds : ∀ given a, check given = .good a → Within a := by
    intro given a h
    exact (hwithin a).mpr fun f hf => f.within ((hcheck given a).mp h f hf)
  -- What is within the bounds passes again: under the name of a field stands what it shows.
  have hagain : ∀ a, Within a → check (members a) = .good a := by
    intro a h
    refine (hcheck _ a).mpr fun f hf => f.again ((hwithin a).mp h f hf) ?_
    rw [hmembers, WrittenField.get?_members hnodup a hf]
  refine ⟨fun a => ⟨?_, fun h => ⟨_, hagain a h⟩⟩, fun given a h => hagain a (hbounds given a h),
    fun given a h => ?_, fun given a h => ?_⟩
  · rintro ⟨given, h⟩
    exact hbounds given a h
  · rw [hmembers, WrittenField.keys_members, List.filter_map, List.map_map]
    -- A field is shown exactly if it was given.
    refine congrArg _ (List.filter_congr fun f hf => ?_)
    exact (f.state ((hcheck given a).mp h f hf)).1
  · rw [List.forall_mem_map]
    intro f hf
    rw [hmembers, WrittenField.get?_members hnodup a hf]
    exact (f.state ((hcheck given a).mp h f hf)).2

/-- A slot is written as what it shows, under its name. -/
theorem Slot.member_eq (key : String) (encode : β → Json) (slot : Slot β) :
    slot.member key encode =
      ((slot.json? encode).map fun v => (LooseText.ofString key, v)).toList := by
  cases slot <;> rfl

/-- And so is a member that may be left out. -/
theorem Json.given_eq (key : String) (encode : β → Json) (given : Option β) :
    Json.given key encode given =
      ((given.map encode).map fun v => (LooseText.ofString key, v)).toList := by
  cases given <;> rfl

/-! ### The forms -/

/-- The bounds of a read request. A limit that was left out counts as its default, and a set of
    fields has each of them at most once. -/
structure ReadRequest.InBounds (r : ReadRequest) : Prop where
  topic : r.topic ≠ ""
  partition : ∀ n, r.partition = .value n → 0 ≤ n
  offset : ∀ n, r.offset = .value n → 0 ≤ n
  limit : 1 ≤ r.limit.getD defaultLimit ∧ r.limit.getD defaultLimit ≤ 500
  fields : ∀ fields, r.fields = some fields → fields.Sublist FieldName.all

/-- The bounds of a write request. -/
structure WriteRequest.InBounds (r : WriteRequest) : Prop where
  partition : ∀ n, r.partition = .value n → 0 ≤ n

/-- The bounds of a problem document. -/
structure ProblemForm.InBounds (p : ProblemForm) : Prop where
  status : 400 ≤ p.status ∧ p.status ≤ 599

/-- The fields of a read request. -/
def ReadRequest.written : List (WrittenField ReadRequest) :=
  [.required "topic" .nonemptyString topic, .nullable "partition" (.atLeast 0 .integer) partition,
   .nullable "offset" (.atLeast 0 .integer) offset, .nullable "timestamp" .looseText timestamp,
   .optional "limit" (.atMost 500 (.atLeast 1 .integer)) limit,
   .optional "include" .fieldNames fields]

/-- The fields of a write request. -/
def WriteRequest.written : List (WrittenField WriteRequest) :=
  [.nullable "partition" (.atLeast 0 .integer) partition,
   .nullable "timestamp" .looseText timestamp, .nullable "key" .looseText key,
   .required "value" .looseText value, .optional "headers" .headers headers]

/-- The fields of a record. -/
def RecordForm.written : List (WrittenField RecordForm) :=
  [.nullable "partition" .integer partition, .nullable "offset" .integer offset,
   .nullable "timestamp" .looseText timestamp, .nullable "timestampType" .looseText timestampType,
   .nullable "key" .looseText key, .nullable "value" .looseText value,
   .nullable "headers" .headers headers]

/-- The fields of a page. -/
def PageForm.written : List (WrittenField PageForm) :=
  [.required "items" .anyList items, .required "total" .integer total,
   .required "size" .integer size, .optional "page" .integer page]

/-- The fields of a problem document. -/
def ProblemForm.written : List (WrittenField ProblemForm) :=
  [.required "type" .looseText type, .required "title" .looseText title,
   .required "status" (.atMost 599 (.atLeast 400 .integer)) status,
   .nullable "detail" .looseText detail, .optional "instance" .looseText occurrence]

/-- The bounds of a read request are those of its fields. -/
theorem ReadRequest.inBounds_iff (r : ReadRequest) :
    r.InBounds ↔ ∀ f ∈ written, f.Within (f.get r) := by
  simp only [written, List.forall_mem_cons, List.not_mem_nil, false_imp_iff, implies_true, and_true]
  -- A limit within the bounds may have been left out, for the default is within them.
  have hlimit : (1 ≤ r.limit.getD defaultLimit ∧ r.limit.getD defaultLimit ≤ 500) ↔
      ∀ n, r.limit = some n → (True ∧ 1 ≤ n) ∧ n ≤ 500 := by
    cases r.limit with
    | none => exact iff_of_true (by decide) nofun
    | some n => simp only [Option.getD_some, Option.some.injEq, forall_eq', true_and]
  constructor
  · intro h
    exact ⟨h.topic, fun n hn => ⟨trivial, h.partition n hn⟩,
      fun n hn => ⟨trivial, h.offset n hn⟩, fun _ _ => trivial, hlimit.mp h.limit, h.fields⟩
  · rintro ⟨htopic, hpartition, hoffset, -, hlimits, hfields⟩
    exact ⟨htopic, fun n hn => (hpartition n hn).2, fun n hn => (hoffset n hn).2,
      hlimit.mpr hlimits, hfields⟩

/-- The bounds of a write request are those of its fields, only one of which has any. -/
theorem WriteRequest.inBounds_iff (r : WriteRequest) :
    r.InBounds ↔ ∀ f ∈ written, f.Within (f.get r) := by
  simp only [written, List.forall_mem_cons, List.not_mem_nil, false_imp_iff, implies_true, and_true]
  constructor
  · intro h
    exact ⟨fun n hn => ⟨trivial, h.partition n hn⟩, fun _ _ => trivial, fun _ _ => trivial, trivial,
      fun _ _ => trivial⟩
  · rintro ⟨hpartition, -⟩
    exact ⟨fun n hn => (hpartition n hn).2⟩

/-- The bounds of a problem document are those of its fields. -/
theorem ProblemForm.inBounds_iff (p : ProblemForm) :
    p.InBounds ↔ ∀ f ∈ written, f.Within (f.get p) := by
  simp only [written, List.forall_mem_cons, List.not_mem_nil, false_imp_iff, implies_true, and_true]
  constructor
  · intro h
    exact ⟨trivial, trivial, ⟨⟨trivial, h.status.1⟩, h.status.2⟩, fun _ _ => trivial,
      fun _ _ => trivial⟩
  · rintro ⟨-, -, hstatus, -⟩
    exact ⟨hstatus.1.2, hstatus.2⟩

/-- A read request is taken back. -/
theorem ReadRequest.takenBack :
    TakenBack (written.map WrittenField.key) check members InBounds := by
  refine takenBack_of_fields (by decide) (fun given r => ?_) (fun r => ?_) inBounds_iff
  · -- The check passes exactly if each of its parts does, with its own field.
    cases r
    simp only [check, written, Checked.seq_eq_good_iff, Checked.map_eq_good_iff, ↓existsAndEq,
      ReadRequest.mk.injEq, and_assoc, List.forall_mem_cons, List.not_mem_nil, false_imp_iff,
      implies_true, and_true]
    rfl
  · -- The members are those of the fields, one after another.
    simp only [members, written, WrittenField.members, List.flatMap_cons, List.flatMap_nil,
      Slot.member_eq, Json.given_eq, List.append_nil, List.append_assoc]
    rfl

/-- A write request is taken back. -/
theorem WriteRequest.takenBack :
    TakenBack (written.map WrittenField.key) check members InBounds := by
  refine takenBack_of_fields (by decide) (fun given r => ?_) (fun r => ?_) inBounds_iff
  · cases r
    simp only [check, written, Checked.seq_eq_good_iff, Checked.map_eq_good_iff, ↓existsAndEq,
      WriteRequest.mk.injEq, and_assoc, List.forall_mem_cons, List.not_mem_nil, false_imp_iff,
      implies_true, and_true]
    rfl
  · simp only [members, written, WrittenField.members, List.flatMap_cons, List.flatMap_nil,
      Slot.member_eq, Json.given_eq, List.append_nil, List.append_assoc]
    rfl

/-- A record is taken back, whatever it holds. -/
theorem RecordForm.takenBack :
    TakenBack (written.map WrittenField.key) check members fun _ => True := by
  refine takenBack_of_fields (by decide) (fun given r => ?_) (fun r => ?_) (fun r => ?_)
  · cases r
    simp only [check, written, Checked.seq_eq_good_iff, Checked.map_eq_good_iff, ↓existsAndEq,
      RecordForm.mk.injEq, and_assoc, List.forall_mem_cons, List.not_mem_nil, false_imp_iff,
      implies_true, and_true]
    rfl
  · simp only [members, written, WrittenField.members, List.flatMap_cons, List.flatMap_nil,
      Slot.member_eq, List.append_nil, List.append_assoc]
    rfl
  · -- Its fields have no bounds.
    simp only [written, List.forall_mem_cons, List.not_mem_nil, false_imp_iff, implies_true,
      and_true, true_iff]
    exact ⟨fun _ _ => trivial, fun _ _ => trivial, fun _ _ => trivial, fun _ _ => trivial,
      fun _ _ => trivial, fun _ _ => trivial, fun _ _ => trivial⟩

/-- A page is taken back, whatever it holds. -/
theorem PageForm.takenBack :
    TakenBack (written.map WrittenField.key) check members fun _ => True := by
  refine takenBack_of_fields (by decide) (fun given p => ?_) (fun p => ?_) (fun p => ?_)
  · cases p
    simp only [check, written, Checked.seq_eq_good_iff, Checked.map_eq_good_iff, ↓existsAndEq,
      PageForm.mk.injEq, and_assoc, List.forall_mem_cons, List.not_mem_nil, false_imp_iff,
      implies_true, and_true]
    rfl
  · simp only [members, written, WrittenField.members, List.flatMap_cons, List.flatMap_nil,
      Json.given_eq, List.append_nil]
    rfl
  · simp only [written, List.forall_mem_cons, List.not_mem_nil, false_imp_iff, implies_true,
      and_true, true_iff]
    exact ⟨trivial, trivial, trivial, fun _ _ => trivial⟩

/-- A problem document is taken back. -/
theorem ProblemForm.takenBack :
    TakenBack (written.map WrittenField.key) check members InBounds := by
  refine takenBack_of_fields (by decide) (fun given p => ?_) (fun p => ?_) inBounds_iff
  · cases p
    simp only [check, written, Checked.seq_eq_good_iff, Checked.map_eq_good_iff, ↓existsAndEq,
      ProblemForm.mk.injEq, and_assoc, List.forall_mem_cons, List.not_mem_nil, false_imp_iff,
      implies_true, and_true]
    rfl
  · simp only [members, written, WrittenField.members, List.flatMap_cons, List.flatMap_nil,
      Slot.member_eq, Json.given_eq, List.append_nil, List.append_assoc]
    rfl

/-- Requests and documents are taken back, each with the bounds that it declares. What passed is
    written with the fields that were given, null or not as they were, and passes again as the
    same; and nothing outside of the bounds ever passes. -/
theorem forms_taken_back :
    TakenBack ["topic", "partition", "offset", "timestamp", "limit", "include"]
      ReadRequest.check ReadRequest.members ReadRequest.InBounds ∧
    TakenBack ["partition", "timestamp", "key", "value", "headers"]
      WriteRequest.check WriteRequest.members WriteRequest.InBounds ∧
    TakenBack ["partition", "offset", "timestamp", "timestampType", "key", "value", "headers"]
      RecordForm.check RecordForm.members (fun _ => True) ∧
    TakenBack ["items", "total", "size", "page"]
      PageForm.check PageForm.members (fun _ => True) ∧
    TakenBack ["type", "title", "status", "detail", "instance"]
      ProblemForm.check ProblemForm.members ProblemForm.InBounds :=
  ⟨ReadRequest.takenBack, WriteRequest.takenBack, RecordForm.takenBack, PageForm.takenBack,
    ProblemForm.takenBack⟩

/-- A read request with numbers in odd spellings, a null, a field named twice, and a member that is
    none of its fields. -/
def oddlySpelled : Json.Members :=
  [("topic", .text "t"), ("partition", .bool true), ("offset", .null),
   ("limit", .text " +1_0.0 "), ("more", .null),
   ("include", .arr [.text "value", .text "key", .text "value"])]

/-- The timestamp stays left out and the offset null. -/
theorem forms_taken_back_respelled :
    ∃ r, ReadRequest.check oddlySpelled = .good r ∧
      r = ⟨"t", .value 1, .null, .unset, some 10, some [.key, .value]⟩ ∧
      ReadRequest.check r.members = .good r ∧ r.InBounds := by
  have hcheck : ReadRequest.check oddlySpelled =
      .good ⟨"t", .value 1, .null, .unset, some 10, some [.key, .value]⟩ := rfl
  exact ⟨_, hcheck, rfl, forms_taken_back.1.again _ _ hcheck,
    (forms_taken_back.1.passes_iff _).mp ⟨_, hcheck⟩⟩

end RecordGateway
