import Mathlib.Data.List.TakeWhile
import RecordGateway.Text.Blank
import RecordGateway.Text.Split

/-!
# Splitting What Was Joined

A join falls apart into the pieces of the texts that were joined, and pieces without the separator
are found again as they were. Trimming drops padding and nothing else, so padding that is put around
a text changes nothing about what is left.

## Theorems

* `notMem_of_mem_splitOn`: no piece has the separator in it.
* `splitOn_joined`: the pieces of a join are those of the texts that were joined.
* `splitOn_intercalate`: splitting gives back the pieces that were joined.
* `map_intercalate`: a join is changed by changing what is joined.
* `splitFirst_append`: the first separator is the one after a part without any.
* `trimWhile_padding`: padding changes nothing about what trimming leaves.
* `exists_padding`: what trimming drops is padding.
* `trimWhile_trimWhile`: what is trimmed stays as it is.
-/

namespace RecordGateway

namespace Text

variable {α : Type}

section Pieces

variable [DecidableEq α]

/-- The pieces are those of the library. -/
theorem splitOn_eq_list (sep : α) (cs : List α) : splitOn sep cs = cs.splitOn sep := by
  induction cs with
  | nil => rfl
  | cons c cs ih =>
      rw [splitOn, ih, List.splitOn_eq_splitOnP, List.splitOn_eq_splitOnP,
        List.splitOnP_cons_eq_if_modifyHead]
      by_cases hc : c = sep
      · rw [if_pos hc, if_pos (beq_iff_eq.mpr hc)]
      · rw [if_neg hc, if_neg (by simpa using hc)]
        cases hs : cs.splitOnP (· == sep) with
        | nil => exact absurd hs (List.splitOnP_ne_nil _ _)
        | cons piece rest => rfl

/-- No piece has the separator in it. -/
theorem notMem_of_mem_splitOn {sep : α} {cs piece : List α} (h : piece ∈ splitOn sep cs) :
    sep ∉ piece := by
  induction cs generalizing piece with
  | nil =>
      rw [splitOn, List.mem_singleton] at h
      rw [h]
      exact List.not_mem_nil
  | cons c cs ih =>
      rw [splitOn] at h
      split_ifs at h with hc
      · rcases List.mem_cons.mp h with rfl | h
        · exact List.not_mem_nil
        · exact ih h
      · -- The first piece goes on with the character, which is not the separator.
        split at h
        case h_1 head rest hsplit =>
          rw [hsplit] at ih
          rcases List.mem_cons.mp h with rfl | h
          · exact List.not_mem_cons_of_ne_of_not_mem (Ne.symm hc) (ih List.mem_cons_self)
          · exact ih (List.mem_cons_of_mem head h)
        case h_2 hsplit => exact absurd hsplit (splitOn_ne_nil sep cs)

/-- The pieces of a text that is cut at a separator are those of both sides. -/
theorem splitOn_append_cons (sep : α) (before after : List α) :
    splitOn sep (before ++ sep :: after) = splitOn sep before ++ splitOn sep after := by
  simp only [splitOn_eq_list, List.splitOn_append_cons_self]

/-- The pieces of a join are those of the texts that were joined. -/
theorem splitOn_joined (sep : α) {texts : List (List α)} (hne : texts ≠ []) :
    splitOn sep (List.intercalate [sep] texts) = texts.flatMap (splitOn sep) := by
  induction texts with
  | nil => exact absurd rfl hne
  | cons text rest ih =>
      cases rest with
      | nil => rw [List.intercalate_singleton, List.flatMap_singleton]
      | cons next rest =>
          rw [List.intercalate_cons_cons, List.append_assoc, List.singleton_append,
            splitOn_append_cons, ih (List.cons_ne_nil _ _)]
          exact List.flatMap_cons.symm

/-- Splitting gives back the pieces that were joined. -/
theorem splitOn_intercalate {sep : α} {pieces : List (List α)}
    (h : ∀ piece ∈ pieces, sep ∉ piece) (hne : pieces ≠ []) :
    splitOn sep (List.intercalate [sep] pieces) = pieces := by
  rw [splitOn_eq_list, List.splitOn_intercalate sep h hne]

/-- The first separator is the one after a part without any. -/
theorem splitFirst_append {sep : α} {before : List α} (h : sep ∉ before)
    (after : List α) : splitFirst sep (before ++ sep :: after) = some (before, after) := by
  induction before with
  | nil => exact if_pos rfl
  | cons c cs ih =>
      rw [List.mem_cons, not_or] at h
      rw [List.cons_append, splitFirst, if_neg (Ne.symm h.1), ih h.2]
      rfl

end Pieces

/-- A join is changed letter by letter by changing what is joined. -/
theorem map_intercalate {β : Type} (f : α → β) (between : List α) (texts : List (List α)) :
    (List.intercalate between texts).map f =
      List.intercalate (between.map f) (texts.map (List.map f)) := by
  induction texts with
  | nil => rfl
  | cons text rest ih =>
      cases rest with
      | nil => simp only [List.map_cons, List.map_nil, List.intercalate_singleton]
      | cons next rest =>
          rw [List.intercalate_cons_cons, List.map_append, List.map_append, ih]
          simp only [List.map_cons, List.intercalate_cons_cons]

/-- The first letters of a run are the first letters of the text. -/
theorem take_eq_take_takeWhile {p : α → Bool} {as : List α} {n : Nat}
    (h : n ≤ (as.takeWhile p).length) : as.take n = (as.takeWhile p).take n := by
  have htake : (as.takeWhile p ++ as.dropWhile p).take n = (as.takeWhile p).take n :=
    List.take_append_of_le_length h
  rwa [List.takeWhile_append_dropWhile] at htake

/-- What stands behind a run is what is left without it. -/
theorem drop_length_takeWhile (p : α → Bool) (as : List α) :
    as.drop (as.takeWhile p).length = as.dropWhile p := by
  have hdrop : (as.takeWhile p ++ as.dropWhile p).drop (as.takeWhile p).length =
      as.dropWhile p := List.drop_left
  rwa [List.takeWhile_append_dropWhile] at hdrop

theorem trimWhile_eq_self {p : α → Bool} {cs : List α} (h : ∀ c ∈ cs, p c = false) :
    trimWhile p cs = cs := by
  have hkeep : ∀ ds : List α, (∀ c ∈ ds, p c = false) → ds.dropWhile p = ds := by
    intro ds hds
    rw [List.dropWhile_eq_self_iff]
    intro hlength
    rw [hds _ (List.getElem_mem hlength)]
    exact Bool.false_ne_true
  rw [trimWhile, hkeep cs h, hkeep cs.reverse (by simpa using h), List.reverse_reverse]

/-- Padding changes nothing about what trimming leaves. -/
theorem trimWhile_padding {p : α → Bool} {before after : List α}
    (hbefore : ∀ c ∈ before, p c = true) (cs : List α) (hafter : ∀ c ∈ after, p c = true) :
    trimWhile p (before ++ cs ++ after) = trimWhile p cs := by
  have hreverse : ∀ c ∈ after.reverse, p c = true := fun c hc => hafter c (List.mem_reverse.mp hc)
  rw [trimWhile, trimWhile, List.append_assoc, List.dropWhile_append_of_pos hbefore,
    List.dropWhile_append]
  by_cases hempty : cs.dropWhile p = []
  · -- Nothing but padding is there, and all of it goes.
    rw [hempty, if_pos List.isEmpty_nil, List.dropWhile_eq_nil_iff.mpr hafter]
  · rw [if_neg (by rwa [List.isEmpty_iff]), List.reverse_append,
      List.dropWhile_append_of_pos hreverse]

/-- What trimming drops is padding. -/
theorem exists_padding (p : α → Bool) (cs : List α) :
    ∃ before after, (∀ c ∈ before, p c = true) ∧ (∀ c ∈ after, p c = true) ∧
      before ++ trimWhile p cs ++ after = cs := by
  refine ⟨cs.takeWhile p, ((cs.dropWhile p).reverse.takeWhile p).reverse,
    fun c => List.mem_takeWhile_imp,
    fun c hc => List.mem_takeWhile_imp (List.mem_reverse.mp hc), ?_⟩
  rw [trimWhile, List.append_assoc, ← List.reverse_append, List.takeWhile_append_dropWhile,
    List.reverse_reverse, List.takeWhile_append_dropWhile]

/-- What is trimmed stays as it is. -/
theorem trimWhile_trimWhile (p : α → Bool) (cs : List α) :
    trimWhile p (trimWhile p cs) = trimWhile p cs := by
  rcases exists_padding p cs with ⟨before, after, hbefore, hafter, hcs⟩
  have htrim := trimWhile_padding hbefore (trimWhile p cs) hafter
  rw [hcs] at htrim
  exact htrim.symm

/-- A text that trimming leaves as it is does not begin with what is trimmed. -/
theorem head_of_trimWhile_eq_self {p : α → Bool} {c : α} {cs : List α}
    (h : trimWhile p (c :: cs) = c :: cs) : p c = false := by
  cases hc : p c with
  | false => rfl
  | true =>
      rcases exists_padding p cs with ⟨before, after, -, -, hcs⟩
      have hpadded := trimWhile_padding (List.forall_mem_singleton.mpr hc) cs
        (List.forall_mem_nil (p · = true))
      rw [List.append_nil, List.singleton_append, h] at hpadded
      have hlength := congrArg List.length hcs
      rw [List.length_append, List.length_append, ← hpadded, List.length_cons] at hlength
      omega

/-- A letter that is not of a class is not among letters of the class. -/
theorem notMem_of_forall {p : α → Bool} {c : α} (hc : p c = false) {cs : List α}
    (h : ∀ d ∈ cs, p d = true) : c ∉ cs := by
  intro hmem
  rw [h c hmem] at hc
  cases hc

end Text

end RecordGateway
