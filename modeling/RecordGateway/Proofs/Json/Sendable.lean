import RecordGateway.Http.Message

/-!
# Values That Can Be Sent

A response carries JSON, and its body has to be text in UTF-8. Two things stand in the way: a
number that is not finite, for which JSON has no spelling, and half of a surrogate pair, which has
no UTF-8 form. The first is looked for in the value. The second is looked for in the written text,
so it has to be followed through the writer: quoting and escaping leave a half as it is, brackets
and commas add none, and so the text of a value holds a half exactly if the value does.

## Main definitions

* `LooseText.holdsHalf`, `Json.holdsHalf`: half of a surrogate pair somewhere.
* `Json.Sendable`: neither halves nor numbers that are not finite.

## Theorems

* `Json.holdsHalf_write`: the text of a value holds a half exactly if the value does.
* `Http.Response.unsendable?_eq_none_iff`: what can be sent.
* `Http.Response.json_of_sendable`: a body that can be sent is sent as it is.
-/

namespace RecordGateway

namespace LooseText

/-- Whether a text holds half of a surrogate pair. -/
def holdsHalf (t : LooseText) : Bool :=
  t.letters.any Letter.isHalf

/-- A string holds none. -/
theorem holdsHalf_ofString (s : String) : (ofString s).holdsHalf = false := by
  simp only [holdsHalf, ofString, List.any_map, List.any_eq_false, Function.comp_apply,
    Letter.isHalf, Bool.false_eq_true, not_false_eq_true, implies_true]

/-- Two texts in a row hold one exactly if one of them does. -/
theorem holdsHalf_append (t u : LooseText) : (t ++ u).holdsHalf = (t.holdsHalf || u.holdsHalf) :=
  List.any_append

/-- The search for a half, wherever it starts, finds one exactly if there is one. By induction on
    the letters. -/
theorem unencodableFrom_eq_none_iff (offset : Nat) (letters : List Letter) :
    unencodableFrom offset letters = none ↔ letters.any Letter.isHalf = false := by
  induction letters generalizing offset with
  | nil => exact iff_of_true rfl rfl
  | cons letter rest ih =>
      cases letter with
      | char c =>
          rw [List.any_cons, Letter.isHalf, Bool.false_or]
          exact ih (offset + 1)
      | half h =>
          rw [List.any_cons, Letter.isHalf, Bool.true_or, unencodableFrom]
          simp only [reduceCtorEq]

/-- A text can be encoded exactly if it holds no half. -/
theorem unencodable?_eq_none_iff (t : LooseText) : t.unencodable? = none ↔ t.holdsHalf = false :=
  unencodableFrom_eq_none_iff 0 t.letters

/-- Separators without halves add none. -/
theorem holdsHalf_intercalate {between : LooseText} (h : between.holdsHalf = false)
    (parts : List LooseText) : (intercalate between parts).holdsHalf = parts.any holdsHalf := by
  induction parts with
  | nil => rfl
  | cons part rest ih =>
      -- The last part has no separator behind it.
      cases rest with
      | nil =>
          rw [intercalate, List.any_cons, List.any_nil, Bool.or_false]
      | cons next others =>
          change ((part ++ between) ++ intercalate between (next :: others)).holdsHalf = _
          rw [holdsHalf_append, holdsHalf_append, h, Bool.or_false, ih, ← List.any_cons]

end LooseText

namespace Json

mutual

/-- Whether a value holds half of a surrogate pair, in a string or in a name. -/
def holdsHalf : Json → Bool
  | .str t => t.holdsHalf
  | .arr items => anyHoldsHalf items
  | .obj members => anyMemberHoldsHalf members
  | _ => false

/-- Whether an item of a list holds half of a surrogate pair. -/
def anyHoldsHalf : List Json → Bool
  | [] => false
  | v :: rest => v.holdsHalf || anyHoldsHalf rest

/-- Whether a member of a list, its name included, holds half of a surrogate pair. -/
def anyMemberHoldsHalf : Members → Bool
  | [] => false
  | (k, v) :: rest => k.holdsHalf || v.holdsHalf || anyMemberHoldsHalf rest

end

/-- A value that a response can carry. -/
def Sendable (v : Json) : Prop :=
  v.hasNonFinite = false ∧ v.holdsHalf = false

instance (v : Json) : Decidable v.Sendable :=
  inferInstanceAs (Decidable (_ ∧ _))

/-- A string can be sent. -/
theorem sendable_text (s : String) : (text s).Sendable :=
  ⟨rfl, LooseText.holdsHalf_ofString s⟩

/-- An array can be sent if all of its items can. -/
theorem sendable_arr {items : List Json} (h : ∀ v ∈ items, v.Sendable) : (arr items).Sendable := by
  unfold Sendable hasNonFinite holdsHalf
  induction items with
  | nil => exact ⟨rfl, rfl⟩
  | cons v rest ih =>
      rcases List.forall_mem_cons.mp h with ⟨hv, hrest⟩
      rcases ih hrest with ⟨hfinite, hwhole⟩
      rw [anyNonFinite, anyHoldsHalf, hv.1, hv.2, hfinite, hwhole]
      exact ⟨rfl, rfl⟩

/-- An object can be sent if its names hold no half and all of its values can be sent. -/
theorem sendable_obj {members : Members}
    (h : ∀ member ∈ members, member.1.holdsHalf = false ∧ member.2.Sendable) :
    (obj members).Sendable := by
  unfold Sendable hasNonFinite holdsHalf
  induction members with
  | nil => exact ⟨rfl, rfl⟩
  | cons member rest ih =>
      rcases member with ⟨k, v⟩
      rcases List.forall_mem_cons.mp h with ⟨⟨hk, hv⟩, hrest⟩
      rcases ih hrest with ⟨hfinite, hwhole⟩
      rw [anyMemberNonFinite, anyMemberHoldsHalf, hk, hv.1, hv.2, hfinite, hwhole]
      exact ⟨rfl, rfl⟩

/-- Quoted and escaped, a string holds a half exactly if it did. -/
theorem holdsHalf_writeString (t : LooseText) : (writeString t).holdsHalf = t.holdsHalf := by
  have hletters : ∀ letters : List Letter,
      (letters.flatMap writeLetter).any Letter.isHalf = letters.any Letter.isHalf := by
    intro letters
    induction letters with
    | nil => rfl
    | cons letter rest ih =>
        rw [List.flatMap_cons, List.any_append, List.any_cons, ih]
        congr 1
        -- A character is written with characters, and a half is written as it is.
        cases letter with
        | char c => exact LooseText.holdsHalf_ofString (writeChar c)
        | half h => rfl
  rw [writeString, LooseText.holdsHalf_append, LooseText.holdsHalf_append,
    LooseText.holdsHalf_ofString, Bool.false_or, Bool.or_false]
  exact hletters t.letters

/-- Brackets and commas hold none. -/
theorem holdsHalf_enclose (opening closing : String) (parts : List LooseText) :
    (enclose opening closing parts).holdsHalf = parts.any LooseText.holdsHalf := by
  rw [enclose, LooseText.holdsHalf_append, LooseText.holdsHalf_append,
    LooseText.holdsHalf_ofString, LooseText.holdsHalf_ofString, Bool.false_or, Bool.or_false,
    LooseText.holdsHalf_intercalate (LooseText.holdsHalf_ofString ",")]

mutual

/-- The text of a value holds a half exactly if the value does. -/
theorem holdsHalf_write : (v : Json) → v.write.holdsHalf = v.holdsHalf
  | .null => LooseText.holdsHalf_ofString "null"
  | .bool true => LooseText.holdsHalf_ofString "true"
  | .bool false => LooseText.holdsHalf_ofString "false"
  | .int n => LooseText.holdsHalf_ofString (toString n)
  | .real x => LooseText.holdsHalf_ofString x.text
  | .str t => holdsHalf_writeString t
  | .arr items => by
      rw [write, holdsHalf_enclose, any_writeItems, holdsHalf]
  | .obj members => by
      rw [write, holdsHalf_enclose, any_writeMembers, holdsHalf]

/-- The same for the items of an array. -/
theorem any_writeItems : (items : List Json) →
    (writeItems items).any LooseText.holdsHalf = anyHoldsHalf items
  | [] => rfl
  | v :: rest => by
      rw [writeItems, List.any_cons, holdsHalf_write v, any_writeItems rest, anyHoldsHalf]

/-- And for the members of an object, where names count too. -/
theorem any_writeMembers : (members : Members) →
    (writeMembers members).any LooseText.holdsHalf = anyMemberHoldsHalf members
  | [] => rfl
  | (k, v) :: rest => by
      rw [writeMembers, List.any_cons, LooseText.holdsHalf_append, LooseText.holdsHalf_append,
        LooseText.holdsHalf_ofString, Bool.or_false, holdsHalf_writeString, holdsHalf_write v,
        any_writeMembers rest, anyMemberHoldsHalf]

end

end Json

namespace Http

namespace Response

/-- A value can be sent exactly if it holds no half and no number that is not finite. -/
theorem unsendable?_eq_none_iff (v : Json) : unsendable? v = none ↔ v.Sendable := by
  unfold unsendable? Json.Sendable
  cases v.hasNonFinite with
  -- A number that is not finite is looked for first, before anything is written.
  | true => simp only [if_true, reduceCtorEq, Bool.true_eq_false, false_and]
  | false =>
      -- There is none, so what is left is the text that would be written.
      rw [if_neg Bool.false_ne_true, Option.map_eq_none_iff, LooseText.unencodable?_eq_none_iff,
        Json.holdsHalf_write]
      simp only [true_and]

/-- A body that can be sent is sent as it is. -/
theorem json_of_sendable {v : Json} (h : v.Sendable) (status : Nat) :
    json status v = ⟨status, [("content-type", "application/json")], .json v, none⟩ := by
  rw [json, (unsendable?_eq_none_iff v).mpr h]

end Response

end Http

end RecordGateway
