/-!
# Splitting Texts

A text is cut at every occurrence of a separator. `n` separators give `n + 1`
pieces, some of them perhaps empty; joining the pieces with the separator gives
the text back. Cutting works on lists of any letters, since texts come as
characters and as characters among halves of surrogate pairs.

## Main definitions

* `splitOn`: the pieces between separators.
* `splitFirst`: the parts before and after the first separator.

## Theorems

* `intercalate_splitOn`: the pieces join to the text.
-/

namespace RecordGateway

namespace Text

section Letters

variable {α : Type} [DecidableEq α]

/-- The pieces of a list of letters between the occurrences of `sep`. -/
def splitOn (sep : α) : List α → List (List α)
  | [] => [[]]
  | c :: cs =>
    if c = sep then [] :: splitOn sep cs
    else match splitOn sep cs with
      | piece :: rest => (c :: piece) :: rest
      | [] => [[c]]

/-- The parts before and after the first occurrence of `sep`, if there is one. -/
def splitFirst (sep : α) : List α → Option (List α × List α)
  | [] => none
  | c :: cs =>
    if c = sep then some ([], cs)
    else (splitFirst sep cs).map fun (before, after) => (c :: before, after)

/-- A text has at least one piece. -/
theorem splitOn_ne_nil (sep : α) (cs : List α) : splitOn sep cs ≠ [] := by
  cases cs with
  | nil => simp [splitOn]
  | cons c cs =>
    unfold splitOn
    split
    · simp
    · split <;> simp

/-- The pieces of a text, joined with the separator, give the text back. -/
theorem intercalate_splitOn (sep : α) (cs : List α) :
    List.intercalate [sep] (splitOn sep cs) = cs := by
  induction cs with
  | nil => simp [splitOn, List.intercalate]
  | cons c cs ih =>
    have hne := splitOn_ne_nil sep cs
    unfold splitOn
    cases hs : splitOn sep cs with
    | nil => exact absurd hs hne
    | cons piece rest =>
      rw [hs] at ih
      by_cases hc : c = sep
      · subst hc
        simp only [if_true]
        simpa [List.intercalate] using ih
      · simp only [hc, if_false]
        cases rest with
        | nil => simpa [List.intercalate] using ih
        | cons p ps => simpa [List.intercalate] using ih

end Letters

/-- The strings between the occurrences of `sep`. -/
def pieces (sep : Char) (s : String) : List String :=
  (splitOn sep s.toList).map String.ofList

end Text

end RecordGateway
