import Mathlib.Logic.Relation
import RecordGateway.Proofs.Reading.Fields
import RecordGateway.Proofs.Request.Flaw
import RecordGateway.Proofs.Text.Split
import RecordGateway.Record.Inclusion

/-!
# Respelling a List of Fields

The fields to include can be named in many ways. What is read out of them are the names in the
pieces between commas, and nothing else about the texts counts. So the same pieces may be put into
one text or into many, blanks may stand around a piece, and a piece of nothing but blanks may stand
anywhere.

Each such change is a step from one list of texts to another, and it leaves the names as they are.
The steps are also all that there is to it. Two lists of texts with the same names are steps apart,
because steps lead from every list to a single text with the names in it and commas between them.

## Main definitions

* `Inclusion.joined`, `Inclusion.trimmed`: pieces put into one text, and taken out of texts.
* `Inclusion.Respells`: one change of spelling.

## Theorems

* `Inclusion.names_joined`, `Inclusion.names_append`: the names in texts that are put together.
* `Inclusion.Respells.names_eq`: a change of spelling leaves the names as they are.
* `Inclusion.names_eq_iff_respelled`: texts with the same names are changes of spelling apart.
* `Inclusion.parse_respelled`: what is read, in every spelling.
-/

namespace RecordGateway

namespace FieldName

/-- A name is read as the field whose name it is. -/
theorem parse_eq_ok_iff (name : String) (field : FieldName) :
    parse name = .ok field ↔ field.name = name := by
  constructor
  · intro h
    rw [parse] at h
    split at h
    case h_1 found hfound =>
      cases h
      have hname := List.find?_some hfound
      exact of_decide_eq_true hname
    case h_2 => cases h
  · rintro rfl
    rw [parse, ofName?_name]

/-- A name is known by what is read, or by how it is refused. -/
theorem parse_injective : Function.Injective parse := by
  intro name other h
  cases hother : parse other with
  | ok field =>
      rw [hother, parse_eq_ok_iff] at h
      rw [parse_eq_ok_iff] at hother
      exact h.symm.trans hother
  -- The refusal tells the name.
  | error failure =>
      rw [hother] at h
      rcases (parse_refuses name failure).mp h with ⟨-⟩
      rcases (parse_refuses other _).mp hother with ⟨-⟩
      rfl

end FieldName

namespace Inclusion

/-- One text with a comma between each two pieces. -/
def joined (pieces : List String) : String :=
  ",".intercalate pieces

/-- The pieces of all texts, in order, without the blanks around them. -/
def trimmed (texts : List String) : List String :=
  (texts.flatMap (Text.pieces ',')).map Text.trim

/-- A piece that holds no name, or the name of a field. -/
def Readable (piece : String) : Prop :=
  piece = "" ∨ ∃ field : FieldName, field.name = piece

/-- One change of spelling, in one place among the texts. -/
inductive Respells : List String → List String → Prop where
  /-- Blanks are put around a piece. -/
  | pad {before left right after : List String} {front piece back : List Char}
      (hfront : ∀ c ∈ front, Text.isBlank c = true) (hpiece : ',' ∉ piece)
      (hback : ∀ c ∈ back, Text.isBlank c = true) :
      Respells (before ++ joined (left ++ String.ofList piece :: right) :: after)
        (before ++ joined (left ++ String.ofList (front ++ piece ++ back) :: right) :: after)
  /-- A blank piece is put between two others. -/
  | insert {before left right after : List String} {blank : List Char}
      (hblank : ∀ c ∈ blank, Text.isBlank c = true) :
      Respells (before ++ joined (left ++ right) :: after)
        (before ++ joined (left ++ String.ofList blank :: right) :: after)
  /-- A text is cut in two at a comma. -/
  | cut {before left right after : List String} :
      Respells (before ++ joined (left ++ right) :: after)
        (before ++ joined left :: joined right :: after)
  /-- An empty text is put between two others. -/
  | extra {before after : List String} : Respells (before ++ after) (before ++ "" :: after)

/-- The names are the trimmed pieces that are not empty. -/
theorem names_eq_filter (texts : List String) : names texts = (trimmed texts).filter (· ≠ "") := by
  rw [names, trimmed, List.map_flatMap, List.filter_flatMap]

/-- Texts are read one after another. -/
theorem names_append (xs ys : List String) : names (xs ++ ys) = names xs ++ names ys :=
  List.flatMap_append

/-- The first text, and then the others. -/
theorem names_cons (text : String) (texts : List String) :
    names (text :: texts) = names [text] ++ names texts :=
  names_append [text] texts

/-- The pieces of a text that was joined are those of the texts in it. -/
theorem pieces_joined {texts : List String} (hne : texts ≠ []) :
    Text.pieces ',' (joined texts) = texts.flatMap (Text.pieces ',') := by
  -- Joined and split again, texts fall apart where they were joined and where they had commas.
  have hchars : (joined texts).toList = List.intercalate [','] (texts.map String.toList) := by
    rw [joined, String.toList_intercalate]
    rfl
  rw [Text.pieces, hchars, Text.splitOn_joined ',' (mt List.map_eq_nil_iff.mp hne),
    List.flatMap_map, List.map_flatMap]
  rfl

/-- A text that was joined has the names of the texts in it. -/
theorem names_joined (texts : List String) : names [joined texts] = names texts := by
  cases texts with
  | nil => decide
  | cons text rest =>
      rw [names_eq_filter, names_eq_filter, trimmed, trimmed, List.flatMap_singleton,
        pieces_joined (List.cons_ne_nil text rest)]

/-- A text is put together from its own pieces. -/
theorem joined_pieces (text : String) : joined (Text.pieces ',' text) = text := by
  have hchars : (Text.pieces ',' text).map String.toList = Text.splitOn ',' text.toList := by
    rw [Text.pieces, List.map_map]
    exact (List.map_congr_left fun _ _ => String.toList_ofList).trans (List.map_id _)
  rw [← String.toList_inj, joined, String.toList_intercalate, hchars]
  exact Text.intercalate_splitOn ',' text.toList

/-- A piece without a comma is one name, or none if it is blank. -/
theorem names_piece {piece : List Char} (h : ',' ∉ piece) :
    names [String.ofList piece] = [Text.trim (String.ofList piece)].filter (· ≠ "") := by
  have hpiece : Text.splitOn ',' piece = [piece] := by
    rw [Text.splitOn_eq_list, List.splitOn_eq_singleton h]
  rw [names_eq_filter, trimmed, List.flatMap_singleton, Text.pieces, String.toList_ofList, hpiece]
  rfl

/-- Blanks around a piece change nothing. -/
theorem names_padded {front piece back : List Char}
    (hfront : ∀ c ∈ front, Text.isBlank c = true) (hpiece : ',' ∉ piece)
    (hback : ∀ c ∈ back, Text.isBlank c = true) :
    names [String.ofList (front ++ piece ++ back)] = names [String.ofList piece] := by
  have hpadded : ',' ∉ front ++ piece ++ back := by
    simp only [List.mem_append, not_or]
    exact ⟨⟨Text.notMem_of_forall (by decide) hfront, hpiece⟩,
      Text.notMem_of_forall (by decide) hback⟩
  rw [names_piece hpadded, names_piece hpiece, Text.trim, Text.trim, String.toList_ofList,
    String.toList_ofList, Text.trimWhile_padding hfront piece hback]

/-- A blank piece holds no name. -/
theorem names_blank {blank : List Char} (h : ∀ c ∈ blank, Text.isBlank c = true) :
    names [String.ofList blank] = [] := by
  have hpadded := names_padded h List.not_mem_nil (List.forall_mem_nil _)
  rw [List.append_nil, List.append_nil] at hpadded
  rw [hpadded]
  decide

/-- A text in the middle of others. -/
theorem names_within (before : List String) (text : String) (after : List String) :
    names (before ++ text :: after) = names before ++ names [text] ++ names after := by
  rw [names_append, names_cons, List.append_assoc]

/-- A change of spelling leaves the names as they are. -/
theorem Respells.names_eq {xs ys : List String} (h : Respells xs ys) : names ys = names xs := by
  cases h with
  | pad hfront hpiece hback =>
      simp only [names_within, names_joined, names_padded hfront hpiece hback]
  | @insert before left right after blank hblank =>
      rw [names_within before, names_within before, names_joined, names_joined, names_within left,
        names_blank hblank, List.append_nil, names_append]
  | @cut before left right after =>
      rw [names_within before, names_within before, names_cons (joined right), names_joined,
        names_joined, names_joined, names_append left]
      simp only [List.append_assoc]
  | extra =>
      have hnone : names [""] = [] := by decide
      rw [names_within, names_append, hnone, List.append_nil]

/-- So do any number of changes, made or taken back. -/
theorem names_eq_of_respelled {xs ys : List String} (h : Relation.EqvGen Respells xs ys) :
    names ys = names xs := by
  induction h with
  | rel _ _ hstep => exact hstep.names_eq
  | refl _ => rfl
  | symm _ _ _ ih => exact ih.symm
  | trans _ _ _ _ _ ih₁ ih₂ => exact ih₂.trans ih₁

/-- The blanks around a piece go, and a piece of nothing else goes with them. -/
theorem respelled_piece (before left : List String) {piece : List Char} (hpiece : ',' ∉ piece)
    (right after : List String) :
    Relation.EqvGen Respells (before ++ joined (left ++ String.ofList piece :: right) :: after)
      (before ++ joined (left ++ names [String.ofList piece] ++ right) :: after) := by
  rcases Text.exists_padding Text.isBlank piece with ⟨front, back, hfront, hback, hpadding⟩
  rw [names_piece hpiece, Text.trim, String.toList_ofList]
  by_cases hblank : Text.trimWhile Text.isBlank piece = []
  · -- A blank piece is one that was put there.
    rw [hblank, List.append_nil] at hpadding
    rw [hblank, List.filter_cons_of_neg (by decide), List.filter_nil, List.append_nil, ← hpadding]
    have hall : ∀ c ∈ front ++ back, Text.isBlank c = true :=
      List.forall_mem_append.mpr ⟨hfront, hback⟩
    exact .symm _ _ (.rel _ _ (.insert hall))
  · -- Any other piece is its name with blanks put around it.
    have hcomma : ',' ∉ Text.trimWhile Text.isBlank piece := by
      intro hmem
      apply hpiece
      rw [← hpadding]
      exact List.mem_append_left _ (List.mem_append_right _ hmem)
    rw [List.filter_cons_of_pos (by simpa using hblank), List.filter_nil, List.append_assoc,
      List.singleton_append]
    conv => lhs; rw [← hpadding]
    exact .symm _ _ (.rel _ _ (.pad hfront hcomma hback))

/-- Piece by piece, the names of a text take its place. -/
theorem respelled_pieces (before : List String) {pieces : List (List Char)}
    (hpieces : ∀ piece ∈ pieces, ',' ∉ piece) (after left : List String) :
    Relation.EqvGen Respells (before ++ joined (left ++ pieces.map String.ofList) :: after)
      (before ++ joined (left ++ names (pieces.map String.ofList)) :: after) := by
  induction pieces generalizing left with
  | nil => exact .refl _
  | cons piece rest ih =>
      rw [List.forall_mem_cons] at hpieces
      rw [List.map_cons, names_cons, ← List.append_assoc]
      exact .trans _ _ _ (respelled_piece before left hpieces.1 _ after) (ih hpieces.2 _)

/-- A text and the names in it, joined, are changes of spelling apart. -/
theorem respelled_text (before : List String) (text : String) (after : List String) :
    Relation.EqvGen Respells (before ++ text :: after)
      (before ++ joined (names [text]) :: after) := by
  have hpieces : ∀ piece ∈ Text.splitOn ',' text.toList, ',' ∉ piece :=
    fun _ => Text.notMem_of_mem_splitOn
  have htext := respelled_pieces before hpieces after []
  rw [← Text.pieces, List.nil_append, List.nil_append, ← names_joined, joined_pieces] at htext
  exact htext

/-- Every list of texts is a respelling of one text with the names in it. -/
theorem respelled_names (before texts : List String) :
    Relation.EqvGen Respells (before ++ texts) (before ++ [joined (names texts)]) := by
  induction texts generalizing before with
  | nil => exact .rel _ _ .extra
  | cons text rest ih =>
      have hrest := ih (before ++ [text])
      rw [List.append_assoc, List.append_assoc] at hrest
      rw [names_cons]
      -- The rest becomes one text, then the first does, and the cut between them is taken back.
      exact .trans _ _ _ hrest
        (.trans _ _ _ (respelled_text before text _) (.symm _ _ (.rel _ _ .cut)))

/-- Texts with the same names are changes of spelling apart. -/
theorem names_eq_iff_respelled (xs ys : List String) :
    names ys = names xs ↔ Relation.EqvGen Respells xs ys := by
  constructor
  · intro hnames
    have hxs := respelled_names [] xs
    have hys := respelled_names [] ys
    rw [hnames] at hys
    exact .trans _ _ _ hxs (.symm _ _ hys)
  · exact names_eq_of_respelled

/-- What is read from two lists of texts is read from both together; if the first is refused, so
    is everything. -/
theorem parse_append (xs ys : List String) :
    parse (xs ++ ys) = do
      let fields ← parse xs
      let more ← parse ys
      return fields ++ more := by
  rw [parse, names_append, List.mapM_append]
  rfl

/-- Fields are read exactly if their names are there, in order and with repeats. -/
theorem parse_eq_ok_iff (texts : List String) (fields : List FieldName) :
    parse texts = .ok fields ↔ names texts = fields.map FieldName.name := by
  have hfields : fields.map Except.ok = (fields.map FieldName.name).map FieldName.parse :=
    (mapM_eq_ok_iff.mp (FieldName.mapM_parse_names fields)).symm
  rw [parse, mapM_eq_ok_iff, hfields]
  exact List.map_inj_right FieldName.parse_injective

/-- The first piece that cannot be read is refused, under its name. -/
theorem parse_eq_error_iff (texts : List String) (failure : Failure) :
    parse texts = .error failure ↔ ∃ front name back, trimmed texts = front ++ name :: back ∧
      (∀ other ∈ front, Readable other) ∧ ¬ Readable name ∧ failure = .unknownField name := by
  have hflaw : ∀ name e, (decide (name ≠ "") = true ∧ FieldName.Flaw name e) ↔
      ¬ Readable name ∧ e = .unknownField name := by
    intro name e
    rw [decide_eq_true_eq, Readable, not_or, not_exists]
    constructor
    · rintro ⟨hname, ⟨hnone⟩⟩
      exact ⟨⟨hname, hnone⟩, rfl⟩
    · rintro ⟨⟨hname, hnone⟩, rfl⟩
      exact ⟨hname, ⟨hnone⟩⟩
  -- A piece that is no field and not empty has a flaw, and only such a piece has one.
  have hnone : ∀ name,
      (∀ e, ¬ (¬ Readable name ∧ e = Failure.unknownField name)) ↔ Readable name := by
    intro name
    constructor
    · exact fun h => by_contra fun hname => h _ ⟨hname, rfl⟩
    · exact fun hname _ h => h.1 hname
  rw [parse, mapM_refuses FieldName.parse_refuses, names_eq_filter, firstOf_filter, firstOf_iff]
  simp only [hflaw, hnone]

/-- What is read is the same in every spelling. One text with commas will do for many texts, and
    several lists of texts are read one after another, up to the first failure. Blanks around
    pieces and blank pieces change nothing. The first piece that is not blank and no field is
    refused, and if there is none, the fields are those that the pieces name. -/
theorem parse_respelled (xs ys : List String) :
    parse [joined xs] = parse xs ∧
    (parse (xs ++ ys) =
      match parse xs, parse ys with
      | .ok fields, .ok more => .ok (fields ++ more)
      | .error failure, _ => .error failure
      | .ok _, .error failure => .error failure) ∧
    (∀ other, Relation.EqvGen Respells xs other → parse other = parse xs) ∧
    (∀ failure, parse xs = .error failure ↔ ∃ front name back,
      trimmed xs = front ++ name :: back ∧ (∀ other ∈ front, Readable other) ∧
        ¬ Readable name ∧ failure = .unknownField name) ∧
    ∀ fields, parse xs = .ok fields ↔
      (trimmed xs).filter (· ≠ "") = fields.map FieldName.name := by
  refine ⟨?_, ?_, fun other hother => ?_, parse_eq_error_iff xs, fun fields => ?_⟩
  · rw [parse, names_joined, ← parse]
  · rw [parse_append]
    cases parse xs with
    | error failure => rfl
    | ok fields => cases parse ys <;> rfl
  · rw [parse, names_eq_of_respelled hother, ← parse]
  · rw [parse_eq_ok_iff, names_eq_filter]

/-- One text with a comma in it, cut in two, with blanks before a name and a blank piece at the
    end. -/
theorem parse_respelled_cut :
    Relation.EqvGen Respells ["key,value"] ["key", "\u3000value, "] ∧
    parse ["key", "\u3000value, "] = .ok [.key, .value] := by
  have hspace : ∀ c ∈ ['\u3000'], Text.isBlank c = true :=
    List.forall_mem_singleton.mpr (by decide)
  have hcut : Respells ["key,value"] ["key", "value"] :=
    @Respells.cut [] ["key"] ["value"] []
  have hpad : Respells ["key", "value"] ["key", "\u3000value"] :=
    @Respells.pad ["key"] [] [] [] ['\u3000'] "value".toList [] hspace (by decide)
      (List.forall_mem_nil _)
  have hinsert : Respells ["key", "\u3000value"] ["key", "\u3000value, "] :=
    @Respells.insert ["key"] ["\u3000value"] [] [] [' '] (List.forall_mem_singleton.mpr (by decide))
  have hrespelled : Relation.EqvGen Respells ["key,value"] ["key", "\u3000value, "] :=
    .trans _ _ _ (.rel _ _ hcut) (.trans _ _ _ (.rel _ _ hpad) (.rel _ _ hinsert))
  rcases parse_respelled ["key,value"] [] with ⟨-, -, hsame, -, hfields⟩
  refine ⟨hrespelled, ?_⟩
  rw [hsame _ hrespelled, hfields]
  decide

end Inclusion

end RecordGateway
