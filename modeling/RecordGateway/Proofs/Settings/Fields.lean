import Mathlib.Tactic.Simproc.ExistsAndEq
import RecordGateway.Proofs.Form.Complaints
import RecordGateway.Proofs.Form.Parts
import RecordGateway.Proofs.Settings.Origins
import RecordGateway.Settings.Basic

/-!
# Settings Field by Field

Sixteen fields make up the settings. Each has a name, a check of its own and a place in the
settings, and a default, which is what the settings hold there if nothing is said of any field.
Settings are checked by checking the fields, and no field sees the value of another.

What is wrong with a field is told by at least one issue, and every issue starts with the name of
the field. One field alone can leave nothing else to say: the list of origins, if its text nests
containers too deeply to be read.

## Main definitions

* `Setting`, `Setting.all`: the fields, in order.
* `Setting.outcome`: a field with a value or without one.
* `Setting.Blames`: what a field may complain about.
* `Settings.InBounds`: the bounds of the numbers.

## Theorems

* `check_eq_good_iff`, `isGood_check`, `issues_check`: settings are checked field by field.
* `Setting.check_complains`: what fields complain about.
* `Setting.issues_outcome`: what is wrong with a field is told with its name.
* `Setting.exists_tooDeep_iff`: when something is nested too deeply.
* `Setting.inBounds_of_outcomes`: numbers that pass lie within their bounds.
-/

namespace RecordGateway

variable {α β : Type}

/-- A field of the settings. -/
structure Setting where
  /-- What the settings hold for the field. -/
  {value : Type}
  /-- The name. -/
  name : String
  /-- The check of a value. -/
  check : Json → Checked value
  /-- Where the settings hold the field. -/
  get : Settings → value

namespace Setting

/-- The list of origins. -/
def originList : Setting :=
  ⟨"cors_allow_origins", Settings.originList, Settings.origins⟩

/-- The fields, in order. -/
def all : List Setting :=
  [⟨"kafka_bootstrap", Field.looseText, Settings.bootstrap⟩,
   ⟨"kafka_api_version", Settings.maybeText, Settings.apiVersion⟩,
   ⟨"client_id", Field.looseText, Settings.clientId⟩,
   ⟨"request_timeout_ms", Field.integer, Settings.requestTimeout⟩,
   ⟨"metadata_max_age_ms", Field.integer, Settings.metadataMaxAge⟩,
   ⟨"api_version_auto_timeout_ms", Field.integer, Settings.apiVersionTimeout⟩,
   ⟨"security_protocol", Field.looseText, Settings.securityProtocol⟩,
   ⟨"sasl_mechanism", Settings.maybeText, Settings.saslMechanism⟩,
   ⟨"sasl_plain_username", Settings.maybeText, Settings.saslUsername⟩,
   ⟨"sasl_plain_password", Settings.maybeText, Settings.saslPassword⟩,
   ⟨"ssl_cafile", Settings.maybeText, Settings.caFile⟩,
   ⟨"poll_timeout_ms", Field.natural, Settings.pollTimeout⟩,
   ⟨"producer_close_timeout_sec", Field.nonnegative, Settings.closeTimeout⟩,
   ⟨"default_limit", Field.atLeast 1 Field.integer, Settings.defaultLimit⟩,
   ⟨"max_limit", Field.atLeast 1 Field.integer, Settings.maxLimit⟩,
   originList]

/-- The names of the fields, in order. -/
theorem names_all : all.map name = Settings.names := rfl

/-- A field with a value, which is checked, or with none, for which the default stands. -/
def outcome (f : Setting) : Option Json → Checked f.value
  | some v => (f.check v).under (.key f.name)
  | none => .good (f.get {})

/-- The field of an object of settings. -/
def ofMembers (f : Setting) (members : Json.Members) : Checked f.value :=
  Settings.withDefault f.name (f.get {}) f.check members

/-- A field of an object has the value that stands under its name. -/
theorem ofMembers_eq (f : Setting) (members : Json.Members) :
    f.ofMembers members = f.outcome (Entries.get? (.ofString f.name) members) := by
  unfold ofMembers Settings.withDefault optional
  cases Entries.get? (.ofString f.name) members with
  | none => rfl
  | some v =>
      simp only [outcome]
      cases f.check v <;> rfl

end Setting

namespace Settings

/-- Settings pass with what their fields pass with. -/
theorem check_eq_good_iff (members : Json.Members) (s : Settings) :
    check members = .good s ↔ ∀ f ∈ Setting.all, f.ofMembers members = .good (f.get s) := by
  cases s
  -- Sixteen parts, each with its own field of the settings.
  simp only [check, Setting.all, Checked.seq_eq_good_iff, Checked.map_eq_good_iff, ↓existsAndEq,
    Settings.mk.injEq, and_assoc, List.forall_mem_cons, List.not_mem_nil, false_imp_iff,
    implies_true, and_true]
  rfl

/-- Settings pass exactly if all fields do. -/
theorem isGood_check (members : Json.Members) :
    (check members).isGood = Setting.all.all fun f => (f.ofMembers members).isGood := by
  simp only [check, Setting.all, Checked.isGood_seq, Checked.isGood_map, Bool.and_assoc,
    List.all_cons, List.all_nil, Bool.and_true]
  rfl

/-- What is wrong with settings is what is wrong with the fields, in order. -/
theorem issues_check (members : Json.Members) :
    (check members).issues = Setting.all.flatMap fun f => (f.ofMembers members).issues := by
  simp only [check, Setting.all, Checked.issues_seq, Checked.issues_map, List.append_assoc,
    List.flatMap_cons, List.flatMap_nil, List.append_nil]
  rfl

end Settings

/-! ### What is wrong with a field -/

namespace Setting

open Checked Complaint

/-- What a field may complain about: anything plain, and a text of origins that is nested too
    deeply. -/
def Blames (f : Setting) (v : Json) (complaint : Complaint) : Prop :=
  complaint.IsPlain ∨ f.name = originList.name ∧
    ∃ t, v = .str t ∧ ¬ Json.NestsWithin Json.maxDepth t

/-- A field that complains about its own value complains plainly. -/
theorem complains_plainly {f : Setting} (h : ∀ v, Complains (IsAbout v) (f.check v)) (v : Json) :
    Complains (fun complaint _ => f.Blames v complaint) (f.check v) :=
  (h v).mono fun _ _ hc => Or.inl hc.1

/-- The list of origins complains about its text, or about its items. -/
theorem originList_complains (v : Json) :
    Complains (fun complaint _ => originList.Blames v complaint) (originList.check v) := by
  change Complains _ (Settings.originList v)
  cases v with
  | null => exact complains_good none
  | str t =>
      rw [Settings.originList]
      cases hparse : Origins.parse t with
      | ok origins => exact complains_good _
      | error kind =>
          have hdeep := (Origins.parse_eq_error_iff t).mp ⟨kind, hparse⟩
          exact complains_complain (Or.inr ⟨rfl, t, rfl, hdeep⟩)
  | arr items =>
      -- What the items are wrong about is theirs, but plain all the same.
      have hitem : ∀ item, Complains (fun complaint _ => originList.Blames (.arr items) complaint)
          (Field.looseText item) :=
        fun item => (Field.looseText_complains item).mono fun _ _ hc => Or.inl hc.1
      exact (complains_listFrom hitem 0 items).map some
  | _ => exact complains_complain (Or.inl nofun)

/-- What is wrong with the value of a field is told, and only a text of origins can be nested too
    deeply. -/
theorem check_complains : ∀ f ∈ all, ∀ v,
    Complains (fun complaint _ => f.Blames v complaint) (f.check v) := by
  have hmaybe : ∀ v, Complains (IsAbout v) (Settings.maybeText v) :=
    fun v => Field.orNull_complains (Field.looseText_complains v)
  have hatLeast : ∀ bound v, Complains (IsAbout v) (Field.atLeast bound Field.integer v) :=
    fun bound v => Field.atLeast_complains bound (Field.integer_complains v)
  have htext := Field.looseText_complains
  have hinteger := Field.integer_complains
  simp only [all, List.forall_mem_cons, List.not_mem_nil, false_imp_iff, implies_true, and_true]
  exact ⟨complains_plainly htext, complains_plainly hmaybe, complains_plainly htext,
    complains_plainly hinteger, complains_plainly hinteger, complains_plainly hinteger,
    complains_plainly htext, complains_plainly hmaybe, complains_plainly hmaybe,
    complains_plainly hmaybe, complains_plainly hmaybe, complains_plainly (hatLeast 0),
    complains_plainly Field.nonnegative_complains, complains_plainly (hatLeast 1),
    complains_plainly (hatLeast 1), originList_complains⟩

/-- A plain complaint is not about nesting. -/
theorem tooDeep?_eq_none {i : Issue} (h : i.complaint.IsPlain) : Settings.tooDeep? i = none := by
  unfold Settings.tooDeep?
  split
  · next kind hkind => exact absurd hkind (h kind)
  · rfl

/-- The issues of a field stand under its name. -/
theorem issues_outcome_some (f : Setting) (v : Json) :
    (f.outcome (some v)).issues = (f.check v).issues.map (Issue.under (.key f.name)) := by
  rw [outcome]
  cases f.check v <;> rfl

/-- What is wrong with a field is told, with the name of the field. -/
theorem issues_outcome {f : Setting} (hf : f ∈ all) {v? : Option Json}
    (h : (f.outcome v?).isGood = false) :
    (f.outcome v?).issues ≠ [] ∧
      ∀ i ∈ (f.outcome v?).issues, i.path.head? = some (.key f.name) := by
  cases v? with
  | none => cases h
  | some v =>
      -- The value did not pass, so there is something wrong with it.
      have hbad : f.check v = .bad (f.check v).issues := by
        refine isGood_eq_false_iff.mp (Bool.eq_false_iff.mpr fun hgood => ?_)
        rcases isGood_iff.mp hgood with ⟨a, ha⟩
        rw [outcome, ha] at h
        cases h
      rw [issues_outcome_some]
      exact ⟨mt List.map_eq_nil_iff.mp (check_complains f hf v _ hbad).1,
        List.forall_mem_map.mpr fun _ _ => rfl⟩

/-- Something is nested too deeply exactly if the text of the origins is. -/
theorem exists_tooDeep_iff (values : String → Option Json) :
    (∃ i ∈ all.flatMap fun f => (f.outcome (values f.name)).issues,
      Settings.tooDeep? i ≠ none) ↔
    ∃ t, values originList.name = some (.str t) ∧
      ¬ Json.NestsWithin Json.maxDepth t := by
  constructor
  · rintro ⟨i, hi, hdeep⟩
    rcases List.mem_flatMap.mp hi with ⟨f, hf, hi⟩
    -- A field without a value has no issues.
    cases hvalue : values f.name with
    | none =>
        rw [hvalue] at hi
        cases hi
    | some v =>
        rw [hvalue, issues_outcome_some] at hi
        rcases List.mem_map.mp hi with ⟨j, hj, rfl⟩
        rcases (check_complains f hf v _ (eq_bad_of_mem_issues hj)).2 j hj with
          hplain | ⟨hname, t, rfl, hnests⟩
        · exact absurd (tooDeep?_eq_none hplain) hdeep
        · exact ⟨t, hname ▸ hvalue, hnests⟩
  · rintro ⟨t, hvalue, hnests⟩
    -- The text of the origins is not read, and that is the issue of its field.
    rcases (Origins.parse_eq_error_iff _).mpr hnests with ⟨kind, hparse⟩
    refine ⟨⟨.tooDeep kind, [.key originList.name], .str t⟩, List.mem_flatMap.mpr
      ⟨originList, by simp only [all, List.mem_cons, true_or, or_true], ?_⟩,
      Option.some_ne_none kind⟩
    rw [hvalue, issues_outcome_some]
    simp only [originList, Settings.originList, hparse, Checked.complain, Checked.issues,
      List.map_singleton, Issue.under, List.mem_singleton]

end Setting

/-- The bounds of the numbers of settings. -/
structure Settings.InBounds (s : Settings) : Prop where
  pollTimeout : 0 ≤ s.pollTimeout
  closeTimeout : s.closeTimeout.isNonnegative = true ∧ s.closeTimeout ≠ .nan
  defaultLimit : 1 ≤ s.defaultLimit
  maxLimit : 1 ≤ s.maxLimit

namespace Setting

/-- A field keeps what its check ensures, if its default is like that too. -/
theorem of_outcome_eq_good {f : Setting} {v? : Option Json} {a : f.value}
    (h : f.outcome v? = .good a) (P : f.value → Prop) (hdefault : P (f.get {}))
    (hcheck : ∀ v a, f.check v = .good a → P a) : P a := by
  cases v? with
  | none =>
      cases h
      exact hdefault
  | some v => exact hcheck v a (Checked.under_eq_good_iff.mp h)

/-- The numbers of settings lie within their bounds. -/
theorem inBounds_of_outcomes {s : Settings} {values : Setting → Option Json}
    (h : ∀ f ∈ all, f.outcome (values f) = .good (f.get s)) : s.InBounds := by
  simp only [all, List.forall_mem_cons] at h
  rcases h with ⟨-, -, -, -, -, -, -, -, -, -, -, hpoll, hclose, hdefault, hmax, -⟩
  have hatLeast : ∀ bound v n, Field.atLeast bound Field.integer v = .good n → bound ≤ n :=
    fun _ _ _ hn => (Field.atLeast_eq_good_iff.mp hn).2
  have hnonnegative : ∀ v x, Field.nonnegative v = .good x → x.isNonnegative = true :=
    fun _ _ hx => (Field.nonnegative_eq_good_iff.mp hx).2
  -- Not-a-number is not at least zero either.
  have hx := of_outcome_eq_good hclose (·.isNonnegative = true) rfl hnonnegative
  refine ⟨of_outcome_eq_good hpoll (0 ≤ ·) (by decide) (hatLeast 0), ⟨hx, fun hnan => ?_⟩,
    of_outcome_eq_good hdefault (1 ≤ ·) (by decide) (hatLeast 1),
    of_outcome_eq_good hmax (1 ≤ ·) (by decide) (hatLeast 1)⟩
  rw [hnan] at hx
  cases hx

end Setting

end RecordGateway
