import RecordGateway.Proofs.Settings.Dotenv
import RecordGateway.Proofs.Settings.Fields
import RecordGateway.Settings.Sources

/-!
# Settings Source by Source

Three sources are merged without regard to the case of names, and then all fields are checked
together. But nothing of this joins one field to another. The entries of a field, in whatever case,
are told from all others by their names; the value that wins depends on them alone, and on the
highest source that has any; and the outcome of the field depends on this value alone.

The one thing that crosses from field to field is a line of the environment file that mentions a
variable. So a field depends on the variables that its own lines mention, and on those that the
lines of these mention in turn. A class of variables that is closed in this way is as good as
sources of its own: what other variables hold is of no account for it.

In the file, lines whose names differ in case are not lines with one name until they are merged.
The last line of a field is the one that counts if its lines spell the name alike; else it is the
last one with the spelling that first came last.

## Main definitions

* `Sources.own`: the entries of a field in any case.
* `Sources.winner`: the value that wins, said of the entries of the field.
* `Sources.outcome`, `Sources.issues`: a field with the value that wins, and what is wrong with all.
* `Sources.FieldByField`: settings are resolved field by field.
* `Sources.AgreeOn`, `Sources.Closed`: sources that hold the same for some variables, and variables
  whose lines mention no others.
* `Sources.SettledAbove`: a source that two have in common defines a field.

## Theorems

* `value?_eq_winner`: the value that wins is that of the first source with an entry.
* `fieldByField`, `settings_congr`: settings depend on the outcomes of the fields.
* `winner_congr`: a field depends on the variables that its lines mention.
* `winner_of_settledAbove`: a field does not depend on what is below a source that defines it.
* `settings_resolved`: settings are resolved field by field.
* `lines_entangled`: the ways in which lines of the file touch each other.
-/

namespace RecordGateway

namespace Sources

variable {α : Type}

/-- Whether a name is the name of a field, in whatever case. -/
def spells (name spelling : String) : Bool :=
  foldName spelling = name

/-- The entries of a field, in order. -/
def own (name : String) (entries : List (String × α)) : List (String × α) :=
  entries.filter fun entry => spells name entry.1

/-- The lines of the file with their final values. -/
def lines (s : Sources) : Dotenv.Values :=
  Dotenv.lines s.environment s.file

/-- What the program says of a field: the name as it is counts before other cases of it. -/
def fromProgram (name : String) (entries : List (String × Json)) : Option Json :=
  (Entries.get? name entries).or (entries.head?.map Prod.snd)

/-- The value that wins for a field, from the entries of this field: what the program says, else
    what the environment says, else what the file says. -/
def winner (s : Sources) (name : String) : Option Json :=
  (fromProgram name (own name s.given)).or
    ((((own name s.environment).getLast?.map Prod.snd).or
      (Dotenv.left? (own name s.lines))).map Json.str)

/-- A field with the value that wins for it. -/
def outcome (s : Sources) (f : Setting) : Checked f.value :=
  f.outcome (s.winner f.name)

/-! ### The value that wins -/

/-- Of entries that are merged without regard to case the last one counts. -/
theorem get?_folded (name : String) (entries : Dotenv.Values) :
    (Entries.get? name (Entries.ofPairs (entries.map fun entry =>
      (foldName entry.1, entry.2)))).join = (own name entries).getLast?.bind Prod.snd := by
  -- The entries with the folded name are those of the field, with their names folded.
  have hown : (entries.map fun entry => (foldName entry.1, entry.2)).filter
      (fun pair => pair.1 = name) =
        (own name entries).map fun entry => (foldName entry.1, entry.2) :=
    List.filter_map
  rw [Entries.get?_ofPairs, Entries.get?_reverse, hown, List.getLast?_map]
  cases (own name entries).getLast? <;> rfl

/-- Of the variables with the name of a field the last one counts. -/
theorem get?_ofEnvironment (name : String) (environment : List (String × LooseText)) :
    (Entries.get? name (ofEnvironment environment)).join =
      (own name environment).getLast?.map Prod.snd := by
  -- A variable always has a value; apart from that these are merged as lines are.
  have hmap : ofEnvironment environment =
      Entries.ofPairs ((environment.map fun entry => (entry.1, some entry.2)).map
        fun entry => (foldName entry.1, entry.2)) := by
    rw [List.map_map]
    rfl
  have hown : own name (environment.map fun entry => (entry.1, some entry.2)) =
      (own name environment).map fun entry => (entry.1, some entry.2) :=
    List.filter_map
  rw [hmap, get?_folded, hown, List.getLast?_map]
  cases (own name environment).getLast? <;> rfl

/-- Of the lines with the name of a field the one counts that they leave as one name. The file is a
    mapping already when the case of its names is dropped, and that is where the places of the
    names matter. -/
theorem get?_ofFile (s : Sources) (name : String) :
    (Entries.get? name s.ofFile).join = Dotenv.left? (own name s.lines) := by
  -- Making a mapping and looking only at one field may be done in either order.
  have hown : own name (Entries.ofPairs s.lines) = Entries.ofPairs (own name s.lines) :=
    Entries.filter_ofPairs (spells name) s.lines
  rw [Dotenv.left?_eq, ← hown, ← get?_folded, lines, ← Dotenv.assignments_eq]
  rfl

/-- What the program says of a field is among its own entries. -/
theorem ofProgram_eq (s : Sources) {name : String} (h : spells name name = true) :
    s.ofProgram name = fromProgram name (own name s.given) := by
  rw [ofProgram, fromProgram, own, Entries.get?_filter (spells name) h, List.head?_filter]
  rfl

/-- The value that wins for a name in lower case is that of the first source with an entry. -/
theorem value?_eq_winner (s : Sources) {name : String} (h : spells name name = true) :
    s.value? name = s.winner name := by
  rw [value?, winner, ofProgram_eq s h, get?_ofEnvironment, get?_ofFile, Option.or_eq_orElse,
    Option.or_eq_orElse]

/-! ### The settings -/

/-- The names of all fields are in lower case. -/
theorem spells_name : ∀ f ∈ Setting.all, spells f.name f.name = true := by
  have hnames : ∀ name ∈ Settings.names, spells name name = true := by decide
  rw [← Setting.names_all, List.forall_mem_map] at hnames
  exact hnames

/-- Under the name of a field stands the value that wins for it. -/
theorem get?_winning (s : Sources) {f : Setting} (hf : f ∈ Setting.all) :
    Entries.get? (.ofString f.name) s.winning = s.winner f.name := by
  -- The values that win are looked up for the names of the fields, and this is one of them.
  have hmem : LooseText.ofString f.name ∈ Settings.names.map LooseText.ofString := by
    rw [← Setting.names_all]
    exact List.mem_map_of_mem (List.mem_map_of_mem hf)
  have hget := Entries.get?_filterMap (fun key : LooseText => s.value? key.toString)
    (Settings.names.map LooseText.ofString) (.ofString f.name)
  rw [List.filterMap_map, if_pos hmem] at hget
  simp only [Function.comp_def, LooseText.toString_ofString] at hget
  rw [winning, hget, value?_eq_winner s (spells_name f hf)]

/-- A field among the values that win is the field with the value that wins for it. -/
theorem ofMembers_winning (s : Sources) {f : Setting} (hf : f ∈ Setting.all) :
    f.ofMembers s.winning = s.outcome f := by
  rw [Setting.ofMembers_eq, get?_winning s hf, outcome]

/-- There are settings exactly if all fields pass. -/
theorem settings_eq_ok_iff (s : Sources) (r : Settings) :
    s.settings = .ok r ↔ ∀ f ∈ Setting.all, s.outcome f = .good (f.get r) := by
  -- Settings are there exactly if the values that win pass the check, which goes field by field.
  have hcheck : s.settings = .ok r ↔ Settings.check s.winning = .good r := by
    rw [settings]
    cases Settings.check s.winning with
    | good a =>
        rw [Checked.good.injEq]
        exact iff_of_eq (Except.ok.injEq a r)
    | bad issues => exact iff_of_false nofun nofun
  rw [hcheck, Settings.check_eq_good_iff]
  exact forall₂_congr fun f hf => by rw [ofMembers_winning s hf]

/-- What is wrong with the fields, in order. -/
def issues (s : Sources) : List Issue :=
  Setting.all.flatMap fun f => (s.outcome f).issues

/-- There are no settings exactly if some field does not pass, and then for the issues of the
    fields. -/
theorem settings_eq_error_iff (s : Sources) (refusal : Settings.Refusal) :
    s.settings = .error refusal ↔
      (∃ f ∈ Setting.all, (s.outcome f).isGood = false) ∧
        refusal = Settings.Refusal.ofIssues s.issues := by
  -- Whether all fields pass, and what is wrong with them, is the same said of either form.
  have hgood : (Settings.check s.winning).isGood = false ↔
      ∃ f ∈ Setting.all, (s.outcome f).isGood = false := by
    rw [Settings.isGood_check, List.all_eq_false]
    simp only [Bool.not_eq_true]
    exact exists_congr fun f => and_congr_right fun hf => by rw [ofMembers_winning s hf]
  have hissues : (Settings.check s.winning).issues = s.issues := by
    rw [Settings.issues_check, issues]
    exact List.flatMap_congr fun f hf => by rw [ofMembers_winning s hf]
  rw [settings, ← hgood, ← hissues]
  cases Settings.check s.winning with
  | good a => exact iff_of_false nofun nofun
  | bad issues =>
      refine Iff.trans (iff_of_eq (Except.error.injEq _ _)) ?_
      rw [eq_comm]
      exact (and_iff_right rfl).symm

/-- Settings depend on the outcomes of the fields and on nothing else. -/
theorem settings_congr {s s' : Sources} (h : ∀ f ∈ Setting.all, s.outcome f = s'.outcome f) :
    s.settings = s'.settings := by
  have hissues : s.issues = s'.issues :=
    List.flatMap_congr fun f hf => by rw [h f hf]
  -- Both ways in which settings may end are told by the outcomes of the fields alone.
  cases hs : s.settings with
  | ok r =>
      rw [settings_eq_ok_iff] at hs
      exact ((settings_eq_ok_iff s' r).mpr fun f hf => by rw [← h f hf, hs f hf]).symm
  | error refusal =>
      rcases (settings_eq_error_iff s refusal).mp hs with ⟨⟨f, hf, hbad⟩, hrefusal⟩
      rw [h f hf] at hbad
      rw [hissues] at hrefusal
      exact ((settings_eq_error_iff s' refusal).mpr ⟨⟨f, hf, hbad⟩, hrefusal⟩).symm

/-- Settings are resolved field by field. There are settings exactly if every field passes, and they
    are what the fields pass with; then the numbers lie within their bounds. Otherwise there are the
    issues of the fields in order, a group for every field that does not pass. Only a list of
    origins that is nested too deeply to be read leaves nothing else to say. -/
structure FieldByField (s : Sources) : Prop where
  accepted : ∀ r, s.settings = .ok r ↔ ∀ f ∈ Setting.all, s.outcome f = .good (f.get r)
  refused : (∃ refusal, s.settings = .error refusal) ↔
    ∃ f ∈ Setting.all, (s.outcome f).isGood = false
  malformed : ∀ issues, s.settings = .error (.malformed issues) →
    issues = Setting.all.flatMap fun f => (s.outcome f).issues
  group : ∀ f ∈ Setting.all, (s.outcome f).isGood = false →
    (s.outcome f).issues ≠ [] ∧ ∀ i ∈ (s.outcome f).issues, i.path.head? = some (.key f.name)
  failed : (∃ failure, s.settings = .error (.failure failure)) ↔
    ∃ t, s.winner "cors_allow_origins" = some (.str t) ∧
      ¬ Json.NestsWithin Json.maxDepth t
  bounds : ∀ r, s.settings = .ok r → r.InBounds

/-- A refusal that tells issues tells all of them. -/
theorem ofIssues_eq_malformed {issues others : List Issue}
    (h : Settings.Refusal.ofIssues issues = .malformed others) : others = issues := by
  unfold Settings.Refusal.ofIssues at h
  split at h
  · cases h
  · cases h
    rfl

/-- The refusal is a failure exactly if some issue is about nesting. -/
theorem exists_ofIssues_eq_failure_iff (issues : List Issue) :
    (∃ failure, Settings.Refusal.ofIssues issues = .failure failure) ↔
      ∃ i ∈ issues, Settings.tooDeep? i ≠ none := by
  unfold Settings.Refusal.ofIssues
  cases hfind : issues.findSome? Settings.tooDeep? with
  | some kind =>
      rcases List.exists_of_findSome?_eq_some hfind with ⟨i, hi, hkind⟩
      refine iff_of_true ⟨_, rfl⟩ ⟨i, hi, ?_⟩
      rw [hkind]
      exact Option.some_ne_none kind
  | none =>
      refine iff_of_false nofun ?_
      rintro ⟨i, hi, hdeep⟩
      exact hdeep (List.findSome?_eq_none_iff.mp hfind i hi)

/-- Any sources are resolved field by field. -/
theorem fieldByField (s : Sources) : FieldByField s := by
  -- Only the list of origins can be nested too deeply.
  have hdeep : (∃ i ∈ s.issues, Settings.tooDeep? i ≠ none) ↔
      ∃ t, s.winner "cors_allow_origins" = some (.str t) ∧
        ¬ Json.NestsWithin Json.maxDepth t :=
    Setting.exists_tooDeep_iff s.winner
  refine ⟨settings_eq_ok_iff s, ?_, ?_, fun f hf => Setting.issues_outcome hf, ?_, ?_⟩
  · simp only [settings_eq_error_iff, exists_and_left, exists_eq, and_true]
  · intro issues h
    exact ofIssues_eq_malformed ((settings_eq_error_iff s _).mp h).2.symm
  · rw [← hdeep]
    constructor
    · rintro ⟨failure, h⟩
      exact (exists_ofIssues_eq_failure_iff s.issues).mp
        ⟨failure, ((settings_eq_error_iff s _).mp h).2.symm⟩
    · intro h
      rcases (exists_ofIssues_eq_failure_iff s.issues).mpr h with ⟨failure, hfailure⟩
      -- Where an issue is about nesting, there is a field that does not pass.
      rcases h with ⟨i, hi, -⟩
      rcases List.mem_flatMap.mp hi with ⟨f, hf, hi⟩
      refine ⟨failure, (settings_eq_error_iff s _).mpr ⟨⟨f, hf, ?_⟩, hfailure.symm⟩⟩
      cases hf : s.outcome f with
      | good a =>
          rw [hf] at hi
          cases hi
      | bad issues => rfl
  · intro r h
    exact Setting.inBounds_of_outcomes ((settings_eq_ok_iff s r).mp h)

/-! ### Fields and variables -/

/-- Sources that hold the same for some variables, in the environment and in the file. -/
structure AgreeOn (p : String → Bool) (s s' : Sources) : Prop where
  environment : s.environment.filter (fun entry => p entry.1) =
    s'.environment.filter fun entry => p entry.1
  file : (Dotenv.bindings s.file).filter (fun line => p line.1) =
    (Dotenv.bindings s'.file).filter fun line => p line.1

/-- Variables whose lines mention no others. -/
def Closed (p : String → Bool) (s : Sources) : Prop :=
  ∀ line ∈ Dotenv.bindings s.file, p line.1 = true → Dotenv.MentionsOnly p line.2

/-- Lines that hold the same for some variables mention the same there. -/
theorem Closed.of_agreeOn {p : String → Bool} {s s' : Sources} (h : s.Closed p)
    (hagree : AgreeOn p s s') : s'.Closed p := by
  intro line hline hp
  have hmem := List.mem_filter (p := fun line => p line.1).mpr ⟨hline, hp⟩
  rw [← hagree.file] at hmem
  exact h line (List.mem_filter.mp hmem).1 hp

/-- The lines of variables that mention no others. -/
theorem filter_lines {p : String → Bool} {s : Sources} (h : s.Closed p) :
    s.lines.filter (fun line => p line.1) =
      Dotenv.resolve ((s.environment.filter fun entry => p entry.1).map
        fun (spelling, value) => (spelling, some value)) []
        ((Dotenv.bindings s.file).filter fun line => p line.1) := by
  -- The variables of the environment are filtered before or after they are taken for lines.
  have henvironment : (s.environment.map fun (spelling, value) => (spelling, some value)).filter
      (fun entry => p entry.1) = (s.environment.filter fun entry => p entry.1).map
        fun (spelling, value) => (spelling, some value) :=
    List.filter_map
  rw [lines, Dotenv.lines, Dotenv.filter_resolve p _ _ _ h, henvironment, List.filter_nil]

/-- The entries of a field are among those of its variables. -/
theorem own_filter {name : String} {p : String → Bool}
    (h : ∀ spelling, spells name spelling = true → p spelling = true)
    (entries : List (String × α)) : own name (entries.filter fun entry => p entry.1) =
      own name entries := by
  rw [own, List.filter_filter, own]
  refine List.filter_congr fun entry _ => ?_
  -- An entry of the field has one of its spellings, and all of these are in the class.
  by_cases hspells : spells name entry.1 = true
  · rw [hspells, h _ hspells, Bool.and_true]
  · rw [Bool.not_eq_true] at hspells
    rw [hspells, Bool.false_and]

/-- What wins for a field depends on what the program gives for it, on its own variables and on
    those that its lines mention. -/
theorem winner_congr {name : String} {p : String → Bool} {s s' : Sources} (hagree : AgreeOn p s s')
    (hclosed : s.Closed p) (hgiven : own name s.given = own name s'.given)
    (h : ∀ spelling, spells name spelling = true → p spelling = true) :
    s.winner name = s'.winner name := by
  -- The lines of the class have the same final values in both, and those of the field are among
  -- them.
  have hlines : own name s.lines = own name s'.lines := by
    rw [← own_filter h s.lines, ← own_filter h s'.lines, filter_lines hclosed,
      filter_lines (hclosed.of_agreeOn hagree), hagree.environment, hagree.file]
  have henvironment : own name s.environment = own name s'.environment := by
    rw [← own_filter h s.environment, ← own_filter h s'.environment, hagree.environment]
  rw [winner, winner, hgiven, henvironment, hlines]

/-- A source that two have in common defines a field: the program does, or else the environment. -/
def SettledAbove (name : String) (s s' : Sources) : Prop :=
  own name s.given = own name s'.given ∧
    (own name s.given ≠ [] ∨
      own name s.environment = own name s'.environment ∧ own name s.environment ≠ [])

/-- A program that says something of a field says what it is. -/
theorem exists_fromProgram (name : String) {entries : List (String × Json)} (h : entries ≠ []) :
    ∃ v, fromProgram name entries = some v := by
  rcases List.exists_cons_of_ne_nil h with ⟨entry, rest, rfl⟩
  rw [fromProgram, List.head?_cons, Option.map_some, Option.or_some]
  exact ⟨_, rfl⟩

/-- What is below a source that defines a field is of no account. -/
theorem winner_of_settledAbove {name : String} {s s' : Sources} (h : SettledAbove name s s') :
    s.winner name = s'.winner name := by
  rcases h with ⟨hgiven, hne | ⟨henvironment, hne⟩⟩
  · rcases exists_fromProgram name hne with ⟨v, hv⟩
    rw [winner, winner, ← hgiven, hv, Option.some_or, Option.some_or]
  · rcases List.exists_cons_of_ne_nil hne with ⟨entry, rest, hown⟩
    rw [winner, winner, ← hgiven, ← henvironment, hown, List.getLast?_cons, Option.map_some,
      Option.some_or, Option.some_or]

/-- Whether a name belongs to another field or to none. -/
def others (name spelling : String) : Bool :=
  !spells name spelling

/-- A spelling of one field is none of another. -/
theorem others_of_spells {name other spelling : String} (hne : other ≠ name)
    (h : spells other spelling = true) : others name spelling = true := by
  simp only [spells, others, decide_eq_true_eq, Bool.not_eq_true', decide_eq_false_iff_not] at *
  rw [h]
  exact hne

/-! ### Lines of a field -/

/-- Lines that spell the name of a field alike. -/
def Alike (lines : List (String × α)) : Prop :=
  ∀ line ∈ lines, ∀ other ∈ lines, line.1 = other.1

/-- Lines keep their names when their values are made final. -/
theorem alike_own_lines {s : Sources} {name : String}
    (h : Alike (own name (Dotenv.bindings s.file))) : Alike (own name s.lines) := by
  -- Each line with its final value is a line of the file, with the same name.
  have hsame : ∀ line ∈ own name s.lines, ∃ written ∈ own name (Dotenv.bindings s.file),
      written.1 = line.1 := by
    intro line hline
    rcases List.mem_filter.mp hline with ⟨hmem, hspells⟩
    have hkey := List.mem_map_of_mem (f := Prod.fst) hmem
    rw [lines, Dotenv.lines, Dotenv.keys_resolve] at hkey
    rcases List.mem_map.mp hkey with ⟨written, hwritten, hname⟩
    exact ⟨written, List.mem_filter.mpr ⟨hwritten, by rwa [hname]⟩, hname⟩
  intro line hline other hother
  rcases hsame line hline with ⟨first, hfirst, hline⟩
  rcases hsame other hother with ⟨second, hsecond, hother⟩
  rw [← hline, ← hother]
  exact h first hfirst second hsecond

/-- Lines of a field that mention nothing are taken as they are. -/
theorem own_lines_of_plain {s : Sources} {name : String}
    (h : ∀ line ∈ own name (Dotenv.bindings s.file), Dotenv.MentionsOnly (fun _ => false) line.2) :
    own name s.lines = Dotenv.asWritten (own name (Dotenv.bindings s.file)) :=
  Dotenv.resolve_of_plain (spells name) _ _ _ fun line hline hspells =>
    h line (List.mem_filter.mpr ⟨hline, hspells⟩)

/-- Settings are resolved field by field. The last line of a field in the file is the one that
    counts, if its lines spell the name alike, and it is taken as it is if they mention no
    variables. A field depends on what the program gives for it, on its own variables and on those
    that its lines mention, and on nothing below a source that defines it. So nothing below a source
    that defines a field is of any account for the settings, if no lines of others mention the
    field. -/
theorem settings_resolved :
    (∀ s : Sources, s.FieldByField) ∧
    (∀ (s : Sources) (name : String), Alike (own name (Dotenv.bindings s.file)) →
      Dotenv.left? (own name s.lines) = (own name s.lines).getLast?.bind Prod.snd) ∧
    (∀ (s : Sources) (name : String),
      (∀ line ∈ own name (Dotenv.bindings s.file),
        Dotenv.MentionsOnly (fun _ => false) line.2) →
      own name s.lines = Dotenv.asWritten (own name (Dotenv.bindings s.file))) ∧
    (∀ (p : String → Bool) (s s' : Sources) (f : Setting),
      (∀ spelling, spells f.name spelling = true → p spelling = true) → s.Closed p →
      AgreeOn p s s' → own f.name s.given = own f.name s'.given → s.outcome f = s'.outcome f) ∧
    (∀ (s s' : Sources) (f : Setting), SettledAbove f.name s s' → s.outcome f = s'.outcome f) ∧
    ∀ (s s' : Sources) (name : String), SettledAbove name s s' → s.Closed (others name) →
      AgreeOn (others name) s s' →
      (∀ f ∈ Setting.all, f.name ≠ name → own f.name s.given = own f.name s'.given) →
      s.settings = s'.settings := by
  refine ⟨fieldByField, fun s name h => Dotenv.left?_of_alike (alike_own_lines h),
    fun s name h => own_lines_of_plain h, fun p s s' f hp hclosed hagree hgiven => ?_,
    fun s s' f h => ?_, fun s s' name h hclosed hagree hgiven => settings_congr fun f hf => ?_⟩
  · rw [outcome, outcome, winner_congr hagree hclosed hgiven hp]
  · rw [outcome, outcome, winner_of_settledAbove h]
  · -- The field itself is settled above, and every other field is of the class that is closed.
    by_cases hname : f.name = name
    · rw [outcome, outcome, winner_of_settledAbove (hname ▸ h)]
    · rw [outcome, outcome, winner_congr hagree hclosed (hgiven f hf hname) fun _ =>
        others_of_spells hname]

/-- Sources of which the environment sets the timeout of polls. -/
def patient (file : String) : Sources where
  environment := [("POLL_TIMEOUT_MS", "5")]
  file := file

/-- An odd value for the timeout in the file does no harm, and a line after it counts as it is. -/
theorem settings_resolved_above :
    (patient "poll_timeout_ms=soon\nclient_id=a\n").settings =
      .ok { pollTimeout := 5, clientId := "a" } ∧
    Dotenv.left? (own "client_id" (patient "poll_timeout_ms=soon\nclient_id=a\n").lines) =
      some "a" ∧
    (∀ f ∈ Setting.all, f.name ≠ "client_id" →
      (patient "client_id=a\n").outcome f = (patient "client_id=b\n").outcome f) ∧
    ∀ f ∈ Setting.all, f.name = "poll_timeout_ms" →
      (patient "poll_timeout_ms=soon\n").outcome f = (patient "").outcome f := by
  rcases settings_resolved with ⟨-, hlast, hplain, hdepends, hsettled, habove⟩
  have hown : own "poll_timeout_ms" (patient "").environment ≠ [] := by decide
  have hpoll : ∀ file other, SettledAbove "poll_timeout_ms" (patient file) (patient other) :=
    fun _ _ => ⟨rfl, Or.inr ⟨rfl, hown⟩⟩
  refine ⟨?_, ?_, fun f _ hne => ?_, fun f _ hname => ?_⟩
  · have hagree : AgreeOn (others "poll_timeout_ms")
        (patient "poll_timeout_ms=soon\nclient_id=a\n") (patient "client_id=a\n") :=
      ⟨rfl, by decide⟩
    have hclosed : (patient "poll_timeout_ms=soon\nclient_id=a\n").Closed
        (others "poll_timeout_ms") := by
      unfold Closed
      decide
    rw [habove _ _ _ (hpoll _ _) hclosed hagree fun _ _ _ => rfl]
    rfl
  · rw [hlast _ _ (by unfold Alike; decide), hplain _ _ (by decide)]
    rfl
  · have hagree : AgreeOn (others "client_id") (patient "client_id=a\n")
        (patient "client_id=b\n") :=
      ⟨rfl, by decide⟩
    have hclosed : (patient "client_id=a\n").Closed (others "client_id") := by
      unfold Closed
      decide
    exact hdepends _ _ _ f (fun _ => others_of_spells hne) hclosed hagree rfl
  · exact hsettled _ _ f (hname ▸ hpoll _ _)

/-- Half of a surrogate pair is kept in a text that the program gives. -/
example : (Sources.mk [("client_id", .str ⟨[.half ⟨0⟩]⟩)] [] "").settings.toOption =
    some { clientId := ⟨[.half ⟨0⟩]⟩ } := by
  decide +kernel

/-- Sources of which the program sets a timeout of polls that is out of bounds, and origins. -/
def impatient (origins : Json) : Sources where
  given := [("poll_timeout_ms", .int (-1)), ("cors_allow_origins", origins)]

/-- Both values are the only ones there are. -/
theorem winner_impatient (origins : Json) :
    (impatient origins).winner "poll_timeout_ms" = some (.int (-1)) ∧
      (impatient origins).winner "cors_allow_origins" = some origins := by
  -- Neither name spells the other field.
  have hspells : spells "poll_timeout_ms" "poll_timeout_ms" = true ∧
      spells "poll_timeout_ms" "cors_allow_origins" = false ∧
      spells "cors_allow_origins" "poll_timeout_ms" = false ∧
      spells "cors_allow_origins" "cors_allow_origins" = true := by decide
  simp only [winner, own, impatient, List.filter_cons, hspells]
  exact ⟨rfl, rfl⟩

/-- Settings that are there are the outcome, which is how they are computed. -/
theorem settings_eq_ok_of_toOption {s : Sources} {r : Settings}
    (h : s.settings.toOption = some r) : s.settings = .ok r := by
  cases hs : s.settings with
  | ok a =>
      rw [hs] at h
      exact congrArg Except.ok (Option.some.inj h)
  | error refusal =>
      rw [hs] at h
      cases h

/-- Lines of a file are not kept apart in every way. The last line of a field need not count, if
    the field is spelled in two ways. A line without a value takes the value away. A line may
    mention another field and change with it. And a list of origins that is nested too deeply keeps
    the issues of other fields from being told. -/
theorem lines_entangled :
    ((own "client_id" (Dotenv.bindings "client_id=a\nCLIENT_ID=b\nclient_id=c\n")).getLast? =
        some ("client_id", some "c") ∧
      (Sources.mk [] [] "client_id=a\nCLIENT_ID=b\nclient_id=c\n").settings =
        .ok { clientId := "b" }) ∧
    ((own "client_id" (Dotenv.bindings "client_id=a\nclient_id\n")) =
        [("client_id", some "a"), ("client_id", none)] ∧
      (Sources.mk [] [] "client_id=a\nclient_id\n").settings = .ok {}) ∧
    (AgreeOn (others "client_id")
        ⟨[], [], "CLIENT_ID=a\nKAFKA_BOOTSTRAP=$\x7bCLIENT_ID\x7d\n"⟩
        ⟨[], [], "CLIENT_ID=b\nKAFKA_BOOTSTRAP=$\x7bCLIENT_ID\x7d\n"⟩ ∧
      (Sources.mk [] [] "CLIENT_ID=a\nKAFKA_BOOTSTRAP=$\x7bCLIENT_ID\x7d\n").settings =
        .ok { clientId := "a", bootstrap := "a" } ∧
      (Sources.mk [] [] "CLIENT_ID=b\nKAFKA_BOOTSTRAP=$\x7bCLIENT_ID\x7d\n").settings =
        .ok { clientId := "b", bootstrap := "b" }) ∧
    ∃ s : Sources,
      (∃ f ∈ Setting.all, f.name = "poll_timeout_ms" ∧ (s.outcome f).isGood = false) ∧
      ∃ failure, s.settings = .error (.failure failure) := by
  refine ⟨⟨by decide, settings_eq_ok_of_toOption (by decide +kernel)⟩,
    ⟨by decide, settings_eq_ok_of_toOption (by decide +kernel)⟩,
    ⟨⟨rfl, by decide⟩, settings_eq_ok_of_toOption (by decide +kernel),
      settings_eq_ok_of_toOption (by decide +kernel)⟩, ?_⟩
  have hdeep : ¬ Json.NestsWithin Json.maxDepth (Json.unclosed 3001) :=
    (Origins.parse_eq_error_iff _).mp ⟨_, Origins.parse_unclosed (by decide)⟩
  rcases winner_impatient (.str (Json.unclosed 3001)) with ⟨hpoll, horigins⟩
  refine ⟨impatient (.str (Json.unclosed 3001)),
    ⟨⟨"poll_timeout_ms", Field.natural, Settings.pollTimeout⟩, ?_, rfl, ?_⟩,
    (fieldByField _).failed.mpr ⟨_, horigins, hdeep⟩⟩
  · simp only [Setting.all, List.mem_cons, true_or, or_true]
  · rw [outcome, hpoll]
    rfl

end Sources

end RecordGateway
