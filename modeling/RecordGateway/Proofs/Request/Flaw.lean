import RecordGateway.Http.Parameters
import RecordGateway.Proofs.Partition.Order
import RecordGateway.Publishing
import RecordGateway.Reading

/-!
# Flaws of a Request

What can be wrong with a request that is in order as a form, and what is reported if several things
are wrong. A flaw is said without the checks: a timestamp that names no instant, a name that no
field has, a header value without a UTF-8 form. Of a list, the first member with a flaw counts.

The order of reports is part of the statement. `before` puts one kind of flaw in front of another,
and checks that run one after another refuse exactly for flaws in this order. A query has its
timestamp looked at before its fields. The parameters of a query string come the other way round,
because their names have to be known before there is a query.

## Main definitions

* `Refuses`: the failures of a check are the flaws of what it checks.
* `before`, `firstOf`: one flaw before another, and the first flaw in a list.
* `Moment.Flaw`, `FieldName.Flaw`, `LooseText.Flaw`: what can be wrong.
* `Query.Flaw`, `Http.Parameters.Flaw`, `WriteRequest.Flaw`: in which order it is reported.
* `Settings.Flaw`: what can be wrong with the settings of a client.

## Theorems

* `Refuses.bind`, `mapM_refuses`: how checks are put together.
* `Query.prepare_refuses`, `Http.Parameters.query_refuses`, `Headers.encode_refuses`,
  `Settings.consumer_refuses`, `Settings.producer_refuses`: the checks of a request.
* `Query.flawed_iff`, `Http.Parameters.flawed_iff`, `WriteRequest.flawed_iff`: when there is
  something wrong at all.
-/

namespace RecordGateway

variable {ε ε' α β : Type}

/-- A check fails exactly for the flaws, each with its own failure. -/
def Refuses (x : Except ε α) (flaw : ε → Prop) : Prop :=
  ∀ failure, x = .error failure ↔ flaw failure

/-- One kind of flaw before another, which shows only if there is none of the first. -/
def before (first second : ε → Prop) (failure : ε) : Prop :=
  first failure ∨ (∀ other, ¬ first other) ∧ second failure

/-- The flaw of the first member of a list that has one. -/
def firstOf (flaw : α → ε → Prop) : List α → ε → Prop
  | [] => fun _ => False
  | x :: rest => before (flaw x) (firstOf flaw rest)

/-- Flaws under the name by which they are reported. -/
def reportedAs (report : ε → ε') (flaw : ε → Prop) (failure : ε') : Prop :=
  ∃ found, flaw found ∧ failure = report found

/-- Something is wrong in an order of two if it is in one of them. -/
theorem exists_before {first second : ε → Prop} :
    (∃ failure, before first second failure) ↔
      (∃ failure, first failure) ∨ ∃ failure, second failure := by
  constructor
  · rintro ⟨failure, h | ⟨-, h⟩⟩
    · exact Or.inl ⟨failure, h⟩
    · exact Or.inr ⟨failure, h⟩
  · rintro (⟨failure, h⟩ | ⟨failure, h⟩)
    · exact ⟨failure, Or.inl h⟩
    · -- The second shows, unless the first is there and shows itself.
      by_cases hfirst : ∃ other, first other
      · rcases hfirst with ⟨other, hother⟩
        exact ⟨other, Or.inl hother⟩
      · exact ⟨failure, Or.inr ⟨not_exists.mp hfirst, h⟩⟩

/-- Something is wrong with a list if it is with one of its members. -/
theorem exists_firstOf {flaw : α → ε → Prop} {xs : List α} :
    (∃ failure, firstOf flaw xs failure) ↔ ∃ x ∈ xs, ∃ failure, flaw x failure := by
  induction xs with
  | nil => exact iff_of_false (fun ⟨_, h⟩ => h) (fun ⟨_, h, _⟩ => List.not_mem_nil h)
  | cons x rest ih =>
      rw [firstOf, exists_before, ih]
      simp only [List.mem_cons, exists_eq_or_imp]

/-- Reporting a flaw under a name neither hides one nor adds one. -/
theorem exists_reportedAs {report : ε → ε'} {flaw : ε → Prop} :
    (∃ failure, reportedAs report flaw failure) ↔ ∃ found, flaw found := by
  constructor
  · rintro ⟨_, found, h, -⟩
    exact ⟨found, h⟩
  · rintro ⟨found, h⟩
    exact ⟨report found, found, h, rfl⟩

/-- What holds of both kinds of flaw holds of the order of them. -/
theorem before_imp {first second P : ε → Prop} (hfirst : ∀ failure, first failure → P failure)
    (hsecond : ∀ failure, second failure → P failure) (failure : ε)
    (h : before first second failure) : P failure :=
  h.elim (hfirst failure) fun hrest => hsecond failure hrest.2

/-- What holds of every flaw of a member holds of the first in a list. -/
theorem firstOf_imp {flaw : α → ε → Prop} {P : ε → Prop}
    (hflaw : ∀ x failure, flaw x failure → P failure) (xs : List α) :
    ∀ failure, firstOf flaw xs failure → P failure := by
  induction xs with
  | nil => exact fun _ h => h.elim
  | cons x rest ih => exact before_imp (hflaw x) ih

/-- If there is no flaw of the first kind, the second kind shows. -/
theorem before_of_first_none {first second : ε → Prop} (h : ∀ failure, ¬ first failure) :
    before first second = second := by
  funext failure
  -- The first kind cannot be what shows, and its absence is what the second kind asks for.
  refine propext ⟨?_, fun hsecond => Or.inr ⟨h, hsecond⟩⟩
  rintro (hfirst | ⟨-, hsecond⟩)
  · exact absurd hfirst (h failure)
  · exact hsecond

/-- If there is no flaw of the second kind, only the first kind shows. -/
theorem before_of_second_none {first second : ε → Prop} (h : ∀ failure, ¬ second failure) :
    before first second = first := by
  funext failure
  refine propext ⟨?_, Or.inl⟩
  rintro (hfirst | ⟨-, hsecond⟩)
  · exact hfirst
  · exact absurd hsecond (h failure)

/-- Of three kinds it does not matter which two are put in order first. -/
theorem before_assoc (first second third : ε → Prop) :
    before (before first second) third = before first (before second third) := by
  by_cases hfirst : ∃ failure, first failure
  · rcases hfirst with ⟨other, hother⟩
    -- Only the first kind can show on either side.
    have honly : ∀ flaw : ε → Prop, before first flaw = first := by
      intro flaw
      funext failure
      exact propext ⟨fun h => h.elim id fun hnone => absurd hother (hnone.1 other), Or.inl⟩
    rw [honly, honly, honly]
  · have hnone := not_exists.mp hfirst
    rw [before_of_first_none hnone, before_of_first_none hnone]

/-- The first flaw in a list is that of a member with nothing wrong before it. -/
theorem firstOf_iff {flaw : α → ε → Prop} {xs : List α} {failure : ε} :
    firstOf flaw xs failure ↔ ∃ front x back, xs = front ++ x :: back ∧
      (∀ y ∈ front, ∀ other, ¬ flaw y other) ∧ flaw x failure := by
  induction xs with
  | nil =>
      refine iff_of_false id ?_
      rintro ⟨front, x, back, hxs, -⟩
      exact List.append_ne_nil_of_right_ne_nil front (List.cons_ne_nil x back) hxs.symm
  | cons y rest ih =>
      rw [firstOf, before, ih]
      -- Either the member in front has a flaw, or it joins those with nothing wrong.
      constructor
      · rintro (hflaw | ⟨hnone, front, x, back, rfl, hfront, hflaw⟩)
        · exact ⟨[], y, rest, rfl, List.forall_mem_nil _, hflaw⟩
        · exact ⟨y :: front, x, back, rfl, List.forall_mem_cons.mpr ⟨hnone, hfront⟩, hflaw⟩
      · rintro ⟨front, x, back, hxs, hfront, hflaw⟩
        cases front with
        | nil =>
            cases hxs
            exact Or.inl hflaw
        | cons z front =>
            cases hxs
            rw [List.forall_mem_cons] at hfront
            exact Or.inr ⟨hfront.1, front, x, back, rfl, hfront.2, hflaw⟩

/-- Members that are left out have no flaw that counts. -/
theorem firstOf_filter (flaw : α → ε → Prop) (keep : α → Bool) (xs : List α) :
    firstOf flaw (xs.filter keep) = firstOf (fun x e => keep x = true ∧ flaw x e) xs := by
  induction xs with
  | nil => rfl
  | cons x rest ih =>
      rw [firstOf, ← ih]
      -- A member that is left out has no flaw on the right side either.
      by_cases hkeep : keep x = true
      · simp only [List.filter_cons_of_pos hkeep, hkeep, true_and, firstOf]
      · rw [List.filter_cons_of_neg hkeep, before_of_first_none fun _ h => hkeep h.1]

namespace Refuses

variable {x : Except ε α} {first second flaw : ε → Prop}

/-- What is not checked has no flaw. -/
theorem ok (a : α) : Refuses (.ok a) fun _ : ε => False := by
  intro failure
  exact iff_of_false nofun id

/-- A check without a flaw passes. -/
theorem passes (h : Refuses x flaw) (hnone : ∀ failure, ¬ flaw failure) : ∃ a, x = .ok a := by
  cases hx : x with
  | error failure => exact absurd ((h failure).mp hx) (hnone failure)
  | ok a => exact ⟨a, rfl⟩

/-- What passes a check has no flaw. -/
theorem none_of_ok (h : Refuses x flaw) {a : α} (hx : x = .ok a) (failure : ε) :
    ¬ flaw failure := by
  intro hflaw
  have herror := (h failure).mpr hflaw
  rw [hx] at herror
  cases herror

/-- Checks one after another refuse for the flaws of the first, and then for those of the second. -/
theorem bind {f : α → Except ε β} (hx : Refuses x first)
    (hf : ∀ a, x = .ok a → Refuses (f a) second) : Refuses (x >>= f) (before first second) := by
  intro failure
  cases hresult : x with
  | error e =>
      -- The second check is not reached, and no flaw of its kind may show.
      have he : first e := (hx e).mp hresult
      constructor
      · intro h
        cases h
        exact Or.inl he
      · rintro (h | ⟨hnone, -⟩)
        · rw [← hresult]
          exact congrArg (· >>= f) ((hx failure).mpr h)
        · exact absurd he (hnone e)
  | ok a =>
      rw [before_of_first_none (hx.none_of_ok hresult)]
      exact hf a hresult failure

/-- What is made of a checked value is refused for the same flaws. -/
theorem bind_ok {f : α → β} (hx : Refuses x flaw) :
    Refuses (x >>= fun a => Except.ok (f a)) flaw := by
  have h := hx.bind fun a _ => Refuses.ok (f a)
  rwa [before_of_second_none fun _ => id] at h

theorem map (hx : Refuses x flaw) (f : α → β) : Refuses (x.map f) flaw := by
  have h := hx.bind_ok (f := f)
  cases x <;> exact h

/-- A check that reports its failures under another name refuses for the same flaws. -/
theorem mapError (hx : Refuses x flaw) (report : ε → ε') :
    Refuses (x.mapError report) (reportedAs report flaw) := by
  intro failure
  cases hresult : x with
  | ok a =>
      refine iff_of_false nofun ?_
      rintro ⟨found, hfound, -⟩
      exact hx.none_of_ok hresult found hfound
  | error e =>
      constructor
      · intro h
        cases h
        exact ⟨e, (hx e).mp hresult, rfl⟩
      · rintro ⟨found, hfound, rfl⟩
        have herror := (hx found).mpr hfound
        rw [hresult] at herror
        cases herror
        rfl

end Refuses

/-- Checks of all members refuse for the first flaw. -/
theorem mapM_refuses {f : α → Except ε β} {flaw : α → ε → Prop}
    (h : ∀ x, Refuses (f x) (flaw x)) (xs : List α) : Refuses (xs.mapM f) (firstOf flaw xs) := by
  induction xs with
  | nil => exact Refuses.ok []
  | cons x rest ih =>
      rw [List.mapM_cons]
      exact (h x).bind fun y _ => ih.bind_ok

/-- A timestamp that names no instant. -/
inductive Moment.Flaw : Option LooseText → Failure → Prop where
  | mk {text : LooseText} (h : text.toString?.bind Instant.parse? = none) :
      Flaw (some text) (.badTimestamp text)

/-- Reading a timestamp refuses exactly one that names no instant. -/
theorem Moment.parse_refuses (timestamp : Option LooseText) :
    Refuses (Moment.parse timestamp) (Moment.Flaw timestamp) := by
  intro failure
  cases timestamp with
  | none => exact iff_of_false nofun nofun
  | some text =>
      rw [Moment.parse]
      cases hinstant : text.toString?.bind Instant.parse? with
      | some t =>
          refine iff_of_false nofun ?_
          rintro ⟨hnone⟩
          rw [hinstant] at hnone
          cases hnone
      | none =>
          constructor
          · intro h
            cases h
            exact ⟨hinstant⟩
          · rintro ⟨-⟩
            rfl

/-- A name that no field has. -/
inductive FieldName.Flaw (name : String) : Failure → Prop where
  | mk (h : ∀ field : FieldName, field.name ≠ name) : Flaw name (.unknownField name)

namespace FieldName

/-- No field is found under a name exactly if none has it. -/
theorem ofName?_eq_none_iff (name : String) :
    ofName? name = none ↔ ∀ field : FieldName, field.name ≠ name := by
  have hall : ∀ field : FieldName, field ∈ all := by
    intro field
    cases field <;> decide
  simp only [ofName?, List.find?_eq_none, decide_eq_true_eq, hall, forall_const, ne_eq]

/-- Reading the name of a field refuses exactly one that no field has. -/
theorem parse_refuses (name : String) : Refuses (parse name) (Flaw name) := by
  intro failure
  rw [parse]
  cases hfield : ofName? name with
  | some field =>
      refine iff_of_false nofun ?_
      rintro ⟨hnone⟩
      rw [(ofName?_eq_none_iff name).mpr hnone] at hfield
      cases hfield
  | none =>
      constructor
      · intro h
        cases h
        exact ⟨(ofName?_eq_none_iff name).mp hfield⟩
      · rintro ⟨-⟩
        rfl

/-- The names of fields have no flaw. -/
theorem no_flaw_of_names (fields : List FieldName) (failure : Failure) :
    ¬ firstOf Flaw (fields.map name) failure := by
  intro hflaw
  rcases exists_firstOf.mp ⟨failure, hflaw⟩ with ⟨text, htext, -, ⟨hnone⟩⟩
  rcases List.mem_map.mp htext with ⟨field, -, hfield⟩
  exact hnone field hfield

end FieldName

/-- A text without a UTF-8 form. -/
def LooseText.Flaw (text : LooseText) (e : Unencodable) : Prop :=
  text.unencodable? = some e

/-- Encoding a text refuses exactly one that holds a half. -/
theorem LooseText.encode_refuses (text : LooseText) : Refuses text.encode text.Flaw := by
  intro e
  rw [LooseText.encode, LooseText.Flaw]
  cases text.unencodable? with
  | none => simp only [reduceCtorEq]
  | some found => simp only [Except.error.injEq, Option.some.injEq]

/-- A header whose value has no UTF-8 form. -/
def Headers.Flaw (header : LooseText × LooseText) : LooseText.Unencodable → Prop :=
  header.2.Flaw

/-- Encoding headers refuses for the first value that holds a half. -/
theorem Headers.encode_refuses (headers : Headers) :
    Refuses headers.encode (firstOf Flaw headers) :=
  mapM_refuses (fun header => header.2.encode_refuses.map _) headers

/-- What is wrong with the settings of a client: a version that is not made of integers. -/
def Settings.Flaw (s : Settings) : Failure → Prop :=
  reportedAs .badVersion fun e => Connection.version s = .error e

/-- What the options of a client add to the shared ones is never refused. -/
theorem Settings.options_refuses (s : Settings) :
    Refuses (Connection.options s) fun e => Connection.version s = .error e := by
  have hversion : Refuses (Connection.version s) fun e => Connection.version s = .error e :=
    fun e => Iff.rfl
  exact hversion.bind_ok

/-- The options of a consumer are refused for the version and for nothing else. -/
theorem Settings.consumer_refuses (s : Settings) (maxRecords : Option Int) :
    Refuses ((Connection.consumer s maxRecords).mapError Failure.badVersion) s.Flaw :=
  s.options_refuses.bind_ok.mapError Failure.badVersion

/-- The options of a producer are refused for the version and for nothing else. -/
theorem Settings.producer_refuses (s : Settings) :
    Refuses ((Connection.producer s).mapError Failure.badVersion) s.Flaw :=
  s.options_refuses.bind_ok.mapError Failure.badVersion

/-- What is wrong with a query: its timestamp, or else the first of its fields that is unknown. -/
def Query.Flaw (q : Query) : Failure → Prop :=
  before (Moment.Flaw q.timestamp) (firstOf FieldName.Flaw q.fields)

/-- The checks of a query refuse for its timestamp first, and then for its fields. -/
theorem Query.prepare_refuses (q : Query) : Refuses q.prepare q.Flaw :=
  (Moment.parse_refuses q.timestamp).bind fun _ _ =>
    (mapM_refuses FieldName.parse_refuses q.fields).bind_ok

/-- A query that asks for fields and not for names can have a bad timestamp only. -/
theorem Query.flaw_of_fields {q : Query} {fields : List FieldName}
    (h : q.fields = fields.map FieldName.name) : q.Flaw = Moment.Flaw q.timestamp := by
  rw [Query.Flaw, h]
  exact before_of_second_none (FieldName.no_flaw_of_names fields)

/-- What is wrong with parameters: the first unknown field, or else the timestamp. -/
def Http.Parameters.Flaw (p : Http.Parameters) : Failure → Prop :=
  before (firstOf FieldName.Flaw (Inclusion.names p.inclusion))
    (Moment.Flaw (p.timestamp.map .ofString))

/-- The names in parameters are looked at before there is a query. -/
theorem Http.Parameters.query_refuses (topic : String) (p : Http.Parameters) :
    Refuses (p.query topic) (firstOf FieldName.Flaw (Inclusion.names p.inclusion)) :=
  (mapM_refuses FieldName.parse_refuses (Inclusion.names p.inclusion)).bind_ok

/-- What is wrong with a request to write: its timestamp, or else the first of its header values
    that has no UTF-8 form. -/
def WriteRequest.Flaw (r : WriteRequest) : Failure → Prop :=
  before (Moment.Flaw r.timestamp.toOption)
    (reportedAs (fun e => .fault (.unencodable e)) (firstOf Headers.Flaw r.headersOrNone))

/-- A timestamp that names no instant is a failure that somebody expected. -/
theorem Moment.Flaw.expected {timestamp : Option LooseText} (failure : Failure)
    (h : Moment.Flaw timestamp failure) : failure.standing ≠ .unexpected := by
  cases h
  exact nofun

/-- So is a name that no field has. -/
theorem FieldName.Flaw.expected (name : String) (failure : Failure)
    (h : FieldName.Flaw name failure) : failure.standing ≠ .unexpected := by
  cases h
  exact nofun

/-- So is a version that is not made of integers. -/
theorem Settings.Flaw.expected {s : Settings} (failure : Failure) (h : s.Flaw failure) :
    failure.standing ≠ .unexpected := by
  rcases h with ⟨e, -, rfl⟩
  exact nofun

/-- So is whatever is wrong with parameters. -/
theorem Http.Parameters.Flaw.expected {p : Http.Parameters} :
    ∀ failure, p.Flaw failure → failure.standing ≠ .unexpected :=
  before_imp (firstOf_imp FieldName.Flaw.expected _) Moment.Flaw.expected

/-- So is whatever is wrong with a request to write. -/
theorem WriteRequest.Flaw.expected {r : WriteRequest} :
    ∀ failure, r.Flaw failure → failure.standing ≠ .unexpected := by
  refine before_imp Moment.Flaw.expected ?_
  rintro _ ⟨e, -, rfl⟩
  exact nofun

/-- A timestamp has a flaw exactly if it is there and names no instant. -/
theorem Moment.flawed_iff (timestamp : Option LooseText) :
    (∃ failure, Moment.Flaw timestamp failure) ↔
      ∃ text, timestamp = some text ∧ text.toString?.bind Instant.parse? = none := by
  constructor
  · rintro ⟨_, ⟨h⟩⟩
    exact ⟨_, rfl, h⟩
  · rintro ⟨text, rfl, h⟩
    exact ⟨_, ⟨h⟩⟩

/-- A name has a flaw exactly if no field has it. -/
theorem FieldName.flawed_iff (name : String) :
    (∃ failure, FieldName.Flaw name failure) ↔ ∀ field : FieldName, field.name ≠ name := by
  constructor
  · rintro ⟨_, ⟨h⟩⟩
    exact h
  · intro h
    exact ⟨_, ⟨h⟩⟩

/-- Something is wrong with a query exactly if its timestamp names no instant or one of its names is
    no field. -/
theorem Query.flawed_iff (q : Query) :
    (∃ failure, q.Flaw failure) ↔
      (∃ text, q.timestamp = some text ∧ text.toString?.bind Instant.parse? = none) ∨
        ∃ name ∈ q.fields, ∀ field : FieldName, field.name ≠ name := by
  simp only [Query.Flaw, exists_before, exists_firstOf, Moment.flawed_iff, FieldName.flawed_iff]

/-- Something is wrong with parameters in the same two cases. -/
theorem Http.Parameters.flawed_iff (p : Http.Parameters) :
    (∃ failure, p.Flaw failure) ↔
      (∃ name ∈ Inclusion.names p.inclusion, ∀ field : FieldName, field.name ≠ name) ∨
        ∃ text, p.timestamp = some text ∧ Instant.parse? text = none := by
  simp only [Http.Parameters.Flaw, exists_before, exists_firstOf, Moment.flawed_iff,
    FieldName.flawed_iff, Option.map_eq_some_iff]
  -- What stands in a query string has no halves, so it is a string in any case.
  refine or_congr_right ⟨?_, ?_⟩
  · rintro ⟨_, ⟨text, htext, rfl⟩, hnone⟩
    rw [LooseText.toString?_ofString] at hnone
    exact ⟨text, htext, hnone⟩
  · rintro ⟨text, htext, hnone⟩
    refine ⟨_, ⟨text, htext, rfl⟩, ?_⟩
    rw [LooseText.toString?_ofString]
    exact hnone

/-- Something is wrong with a request to write exactly if its timestamp names no instant or one of
    its header values has no UTF-8 form. -/
theorem WriteRequest.flawed_iff (r : WriteRequest) :
    (∃ failure, r.Flaw failure) ↔
      (∃ text, r.timestamp.toOption = some text ∧ text.toString?.bind Instant.parse? = none) ∨
        ∃ header ∈ r.headersOrNone, ∃ e, header.2.unencodable? = some e := by
  simp only [WriteRequest.Flaw, exists_before, exists_reportedAs, exists_firstOf, Moment.flawed_iff]
  rfl

end RecordGateway
