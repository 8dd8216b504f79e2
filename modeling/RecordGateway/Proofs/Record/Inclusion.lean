import RecordGateway.Proofs.Record.Respelling

/-!
# Ways to Spell a List of Fields

A caller may name the fields to include in one text with commas, in many texts, or in a mixture of
both, with blanks around a name and with places that hold no name at all. A spelling is described
by its places: each has blanks, a field perhaps, and blanks again. What is read are the fields of
the places, in order and with repeats.

## Main definitions

* `Inclusion.Place`: what stands between two commas.
* `Inclusion.Spells`: texts whose places hold fields.

## Theorems

* `Inclusion.names_of_spells`: the names that are read.
* `Inclusion.parse_of_spells`: the fields that are read.
* `Inclusion.spells_names`: every list of fields has a spelling.
-/

namespace RecordGateway

namespace FieldName

/-- No name has a comma or a blank in it. -/
theorem name_plain (f : FieldName) :
    ∀ c ∈ f.name.toList, c ≠ ',' ∧ Text.isBlank c = false := by
  have hall : f.name.toList.all (fun c => c != ',' && !Text.isBlank c) = true := by
    cases f <;> decide
  intro c hc
  simpa using List.all_eq_true.mp hall c hc

/-- No name is empty. -/
theorem name_ne_empty (f : FieldName) : f.name ≠ "" := by
  cases f <;> decide

end FieldName

namespace Inclusion

/-- What stands between two commas: blanks, perhaps a name, and blanks. -/
structure Place where
  /-- The blanks before. -/
  before : List Char
  /-- The field that is named, if one is. -/
  field : Option FieldName
  /-- The blanks after. -/
  after : List Char
  /-- All of them are blank. -/
  blank : ∀ c ∈ before ++ after, Text.isBlank c = true

namespace Place

/-- The name in a place, empty if there is none. -/
def name (p : Place) : String :=
  (p.field.map FieldName.name).getD ""

/-- A place as it is written. -/
def text (p : Place) : List Char :=
  p.before ++ p.name.toList ++ p.after

theorem name_plain (p : Place) : ∀ c ∈ p.name.toList, c ≠ ',' ∧ Text.isBlank c = false := by
  rw [name]
  cases p.field with
  | none => exact fun c hc => absurd hc List.not_mem_nil
  | some f => exact f.name_plain

/-- A place has the name in it, if there is one. -/
theorem names_text (p : Place) :
    names [String.ofList p.text] = (p.field.map FieldName.name).toList := by
  have hcomma : ',' ∉ p.name.toList := fun hmem => (p.name_plain ',' hmem).1 rfl
  -- The blanks are trimmed, and the name has none of its own; an empty name is skipped.
  rw [text, names_padded (fun c hc => p.blank c (List.mem_append_left _ hc)) hcomma
    (fun c hc => p.blank c (List.mem_append_right _ hc)), names_piece hcomma, Text.trim,
    String.toList_ofList, Text.trimWhile_eq_self fun c hc => (p.name_plain c hc).2,
    String.ofList_toList, name]
  cases p.field with
  | none => rfl
  | some f => exact List.filter_cons_of_pos (by simpa using f.name_ne_empty)

end Place

/-- The places of a text with a comma between each two. -/
def written (places : List Place) : String :=
  String.ofList (List.intercalate [','] (places.map Place.text))

/-- Texts spell fields if their places hold them, in order and with repeats. Each text has a place,
    be it an empty one. -/
def Spells (texts : List String) (fields : List FieldName) : Prop :=
  ∃ rows : List (List Place), (∀ places ∈ rows, places ≠ []) ∧ texts = rows.map written ∧
    fields = rows.flatMap fun places => places.filterMap Place.field

/-- A text is joined of its places. -/
theorem written_eq_joined (places : List Place) :
    written places = joined (places.map fun p => String.ofList p.text) := by
  have hchars : (places.map fun p => String.ofList p.text).map String.toList =
      places.map Place.text := by
    rw [List.map_map]
    exact List.map_congr_left fun _ _ => String.toList_ofList
  rw [← String.toList_inj, written, String.toList_ofList, joined, String.toList_intercalate, hchars]
  rfl

/-- The names in one text are those of its places that hold a field. -/
theorem names_written (places : List Place) :
    names [written places] = (places.filterMap Place.field).map FieldName.name := by
  rw [written_eq_joined, names_joined]
  induction places with
  | nil => rfl
  | cons p rest ih =>
      rw [List.map_cons, names_cons, ih, p.names_text]
      -- A place without a field has no name to read.
      cases hfield : p.field with
      | none =>
          rw [List.filterMap_cons_none hfield]
          rfl
      | some f =>
          rw [List.filterMap_cons_some hfield]
          rfl

/-- The names that are read are those of the fields that are spelled. -/
theorem names_of_spells {texts : List String} {fields : List FieldName}
    (h : Spells texts fields) : names texts = fields.map FieldName.name := by
  rcases h with ⟨rows, -, rfl, rfl⟩
  induction rows with
  | nil => rfl
  | cons places rest ih =>
      rw [List.map_cons, names_cons, ih, names_written, List.flatMap_cons, List.map_append]

/-- The fields that are read are those that are spelled. -/
theorem parse_of_spells {texts : List String} {fields : List FieldName}
    (h : Spells texts fields) : parse texts = .ok fields := by
  rw [parse, names_of_spells h, FieldName.mapM_parse_names]

/-- Every list of fields has a spelling: a text for each of them. -/
theorem spells_names (fields : List FieldName) : Spells (fields.map FieldName.name) fields := by
  have hplace : ∀ f, written [⟨[], some f, [], List.forall_mem_nil _⟩] = f.name := by
    intro f
    rw [written, List.map_singleton, List.intercalate_singleton, Place.text, Place.name]
    simp only [List.nil_append, List.append_nil, Option.map_some, Option.getD_some,
      String.ofList_toList]
  refine ⟨fields.map fun f => [⟨[], some f, [], List.forall_mem_nil _⟩], ?_, ?_, ?_⟩
  · rintro places hplaces rfl
    rcases List.mem_map.mp hplaces with ⟨f, -, hf⟩
    cases hf
  · rw [List.map_map]
    exact List.map_congr_left fun f _ => (hplace f).symm
  · rw [List.flatMap_map]
    exact (List.flatMap_singleton' fields).symm

end Inclusion

end RecordGateway
