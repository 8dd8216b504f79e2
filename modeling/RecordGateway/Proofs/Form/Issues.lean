import RecordGateway.Http.Parameters
import RecordGateway.Proofs.Form.Complaints
import RecordGateway.Proofs.Json.Sendable

/-!
# What Issues Are About

An issue shows the input that was found wanting, and a form is found wanting for the values of its
members. The parameters of a query string are strings, all of them optional. So what is wrong with
them is always shown with a string, and their issues can be sent to the caller whatever was asked.

## Main definitions

* `Checked.About`: every issue shows an input of some sort.

## Theorems

* `Http.Parameters.check_about`: the issues of parameters show strings.
* `Http.Parameters.sendable_issues`: they can be sent.
-/

namespace RecordGateway

namespace Checked

variable {α : Type}

/-- Every issue of a check shows an input of some sort. -/
def About (P : Json → Prop) (c : Checked α) : Prop :=
  ∀ issues, c = .bad issues → ∀ i ∈ issues, P i.input

/-- Who complains of an input of some sort shows it. -/
theorem Complains.about {P : Json → Prop} {c : Checked α} (h : Complains (fun _ v => P v) c) :
    About P c :=
  fun issues hissues => (h issues hissues).2

end Checked

namespace Http

namespace Parameters

open Checked

/-- A value that is a string of characters. -/
def IsText (v : Json) : Prop :=
  ∃ s, v = .text s

/-- A parameter that is there is a string, and one that is not there has no issues. -/
theorem optional_complains {α : Type} (ps : List (String × String)) (name : String)
    {check : Json → Checked α} (h : ∀ v, Complains (Complaint.IsAbout v) (check v)) :
    Complains (fun _ => IsText) (optional name check (scalar ps name)) := by
  unfold scalar optional
  cases QueryString.last? name ps with
  | none => exact complains_good none
  | some value =>
      simp only [Option.map_some, Option.toList_some, Entries.get?, if_true]
      -- Whatever is said of the string is said with it as the input, and its name only goes in
      -- front of the place.
      have hvalue := (h (.text value)).mono (Q := fun _ => IsText) fun _ _ hv => ⟨value, hv.2⟩
      exact (hvalue.under _).map some

/-- What is wrong with parameters is shown with strings. -/
theorem check_about (defaultLimit maxLimit : Int) (query : String) :
    About IsText (check defaultLimit maxLimit query) := by
  -- The three kinds of parameters that can be wrong, and then each parameter with its own name.
  have hnatural : ∀ v, Complains (Complaint.IsAbout v) (Field.natural v) :=
    fun v => Field.atLeast_complains 0 (Field.integer_complains v)
  have hlimit : ∀ v, Complains (Complaint.IsAbout v)
      (Field.atMost maxLimit (Field.atLeast 1 Field.integer) v) :=
    fun v => Field.atMost_complains maxLimit (Field.atLeast_complains 1 (Field.integer_complains v))
  let ps := QueryString.pairs query
  have hpartition := optional_complains ps "partition" hnatural
  have hoffset := optional_complains ps "offset" hnatural
  have htimestamp := optional_complains ps "timestamp" Field.string_complains
  have hcount := (optional_complains ps "limit" hlimit).map fun n => n.getD defaultLimit
  exact (((((((hpartition.map Parameters.mk).combine hoffset).combine htimestamp).combine
    hcount).combine (complains_good _))).under _).about

/-- What an issue says beside its input can be sent. -/
theorem sendable_context (c : Complaint) :
    ∀ member ∈ Response.contextMember c, member.1.holdsHalf = false ∧ member.2.Sendable := by
  have hname := LooseText.holdsHalf_ofString
  -- Bounds are integers, and what JSON was expected is said in words.
  have hone : ∀ (name : String) {v : Json}, v.Sendable →
      ∀ member ∈ ([("ctx", .obj [(name, v)])] : Json.Members),
        member.1.holdsHalf = false ∧ member.2.Sendable := by
    intro name v hv member hmember
    rw [List.mem_singleton.mp hmember]
    refine ⟨hname "ctx", Json.sendable_obj ?_⟩
    intro inner hinner
    rw [List.mem_singleton.mp hinner]
    exact ⟨hname name, hv⟩
  cases c with
  | below bound => exact hone "ge" ⟨rfl, rfl⟩
  | above bound => exact hone "le" ⟨rfl, rfl⟩
  | notJson expectation => exact hone "error" (Json.sendable_text _)
  | _ => exact List.forall_mem_nil _

/-- An issue that shows a string can be sent. -/
theorem sendable_issue {i : Issue} (h : IsText i.input) : (Response.issue i).Sendable := by
  rcases h with ⟨s, hs⟩
  have hinput : (i.input.prune Response.isInternal).Sendable := by
    rw [hs]
    exact Json.sendable_text s
  -- The place is told in names of fields and in numbers.
  have hpath : (Json.arr (i.path.map Step.toJson)).Sendable := by
    refine Json.sendable_arr ?_
    rw [List.forall_mem_map]
    intro step _
    cases step with
    | key name => exact Json.sendable_text name
    | index n => exact ⟨rfl, rfl⟩
  refine Json.sendable_obj (List.forall_mem_append.mpr ⟨?_, sendable_context i.complaint⟩)
  simp only [List.forall_mem_cons, LooseText.holdsHalf_ofString, true_and]
  exact ⟨Json.sendable_text _, hpath, Json.sendable_text _, hinput, List.forall_mem_nil _⟩

/-- The issues of parameters can be sent, whatever was asked. -/
theorem sendable_issues {defaultLimit maxLimit : Int} {query : String} {issues : List Issue}
    (h : check defaultLimit maxLimit query = .bad issues) :
    (Json.obj [("detail", .arr (issues.map Response.issue))]).Sendable := by
  have hissues : (Json.arr (issues.map Response.issue)).Sendable := by
    refine Json.sendable_arr ?_
    rw [List.forall_mem_map]
    intro i hi
    exact sendable_issue (check_about defaultLimit maxLimit query issues h i hi)
  refine Json.sendable_obj ?_
  intro member hmember
  rw [List.mem_singleton.mp hmember]
  exact ⟨LooseText.holdsHalf_ofString "detail", hissues⟩

end Parameters

end Http

end RecordGateway
