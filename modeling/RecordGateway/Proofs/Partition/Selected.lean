import RecordGateway.Proofs.Partition.Order

/-!
# Which Partitions Are Selected

The ids of a topic's partitions come as a collection, in any order and perhaps with repeats, and a
read takes in the ids that its filter lets through, in ascending order. What is selected is pinned
down by its order and by how often each id is there: two sorted lists with the same counts are the
same list. So the selection depends on the counts of the collection alone, and not on the order in
which it came.

A selection that would be empty is a failure instead, and the two ways to be empty are told apart. A
topic without ids is unknown, whatever the filter asks for. If there are ids, only a filter that
names none of them leaves nothing, and so a missing filter never fails. The filter is compared with
the ids and with nothing else, which makes 0 an id like the others.

## Main definitions

* `Selection.Chosen`: the ids that a filter lets through, in ascending order.

## Theorems

* `Selection.chosen_selected`: the selected ids are the chosen ones.
* `Selection.Chosen.unique`: there is one way to choose.
* `Selection.selected_eq_nil_iff`: when nothing is selected.
* `Selection.logs_exact`: the answer of every selection, whatever the order of the ids.
-/

namespace RecordGateway

namespace Selection

/-- The ids that a filter lets through, in ascending order, each as often as it came. No filter
    lets all of them through. -/
structure Chosen (ids : List Int) (filter : Option Int) (chosen : List Int) : Prop where
  ascending : chosen.Pairwise (· ≤ ·)
  count : ∀ id, chosen.count id = if filter = none ∨ filter = some id then ids.count id else 0

theorem admits_iff (filter : Option Int) (id : Int) :
    admits filter id = true ↔ filter = none ∨ filter = some id := by
  cases filter with
  | none => exact iff_of_true rfl (Or.inl rfl)
  | some wanted =>
      rw [admits, beq_iff_eq, Option.some.injEq, eq_comm]
      simp only [reduceCtorEq, false_or]

theorem count_ascending (id : Int) (ids : List Int) : (ascending ids).count id = ids.count id :=
  (List.mergeSort_perm ids _).count_eq id

/-- The selected ids are the chosen ones. -/
theorem chosen_selected (available : Option (List Int)) (filter : Option Int) :
    Chosen (available.getD []) filter (selected available filter) := by
  refine ⟨(ascending_pairwise _).filter _, fun id => ?_⟩
  rw [selected]
  by_cases hadmits : admits filter id = true
  · rw [if_pos ((admits_iff filter id).mp hadmits), List.count_filter hadmits, count_ascending]
  · rw [if_neg fun h => hadmits ((admits_iff filter id).mpr h), List.count_eq_zero]
    exact fun hmem => hadmits (List.mem_filter.mp hmem).2

/-- There is one way to choose, and it depends on how often each id came. -/
theorem Chosen.unique {ids ids' : List Int} {filter : Option Int} {chosen chosen' : List Int}
    (h : Chosen ids filter chosen) (h' : Chosen ids' filter chosen') (hids : ids.Perm ids') :
    chosen = chosen' := by
  have hperm : chosen.Perm chosen' := by
    rw [List.perm_iff_count]
    intro id
    rw [h.count, h'.count, hids.count_eq]
  exact hperm.eq_of_pairwise (fun a b _ _ => Int.le_antisymm) h.ascending h'.ascending

/-- Nothing is selected if there are no ids, or if the filter names none of them. -/
theorem selected_eq_nil_iff (available : Option (List Int)) (filter : Option Int) :
    selected available filter = [] ↔
      available.getD [] = [] ∨ ∃ wanted, filter = some wanted ∧ wanted ∉ available.getD [] := by
  simp only [List.eq_nil_iff_forall_not_mem (l := selected _ _), mem_selected, admits_iff]
  cases filter with
  | none =>
      simp only [and_true, reduceCtorEq, false_and, exists_false, or_false,
        List.eq_nil_iff_forall_not_mem]
  | some wanted =>
      simp only [reduceCtorEq, Option.some.injEq, false_or, exists_eq_left']
      constructor
      · exact fun h => Or.inr fun hmem => h wanted ⟨hmem, rfl⟩
      · rintro (hnone | hmissing) id ⟨hmem, rfl⟩
        · rw [hnone] at hmem
          exact List.not_mem_nil hmem
        · exact hmissing hmem

/-- A selection is exact. A topic without ids is unknown, whatever the filter; a filter that is not
    among the ids names no partition; and otherwise the logs are those of the chosen ids. The order
    in which the ids came changes nothing. -/
theorem logs_exact (topic : String) (available : Option (List Int)) (filter : Option Int) :
    (Selection.logs topic available filter = .error (.noSuchTopic topic) ↔
      available.getD [] = []) ∧
    (Selection.logs topic available filter = .error (.noSuchPartition topic filter) ↔
      available.getD [] ≠ [] ∧ ∃ wanted, filter = some wanted ∧ wanted ∉ available.getD []) ∧
    (available.getD [] ≠ [] → (∀ wanted, filter = some wanted → wanted ∈ available.getD []) →
      ∃ chosen, Chosen (available.getD []) filter chosen ∧
        Selection.logs topic available filter = .ok (chosen.map fun id => ⟨topic, id⟩)) ∧
    ∀ other : Option (List Int), (other.getD []).Perm (available.getD []) →
      Selection.logs topic other filter = Selection.logs topic available filter := by
  have hselected := selected_eq_nil_iff available filter
  refine ⟨?_, ?_, fun hids hfilter => ?_, fun other hperm => ?_⟩
  · rw [logs_eq]
    split_ifs with hnone hempty
    · exact iff_of_true rfl hnone
    · exact iff_of_false nofun hnone
    · exact iff_of_false nofun hnone
  · rw [logs_eq]
    split_ifs with hnone hempty
    · exact iff_of_false nofun fun h => h.1 hnone
    · exact iff_of_true rfl ⟨hnone, (hselected.mp hempty).resolve_left hnone⟩
    · exact iff_of_false nofun fun h => hempty (hselected.mpr (Or.inr h.2))
  · have hsome : selected available filter ≠ [] := by
      rw [Ne, hselected, not_or]
      refine ⟨hids, ?_⟩
      rintro ⟨wanted, hwanted, hmissing⟩
      exact hmissing (hfilter wanted hwanted)
    refine ⟨selected available filter, chosen_selected available filter, ?_⟩
    rw [logs_eq, if_neg hids, if_neg hsome]
  · -- Both collections are empty or neither is, and the same ids are chosen from them.
    have hempty : other.getD [] = [] ↔ available.getD [] = [] :=
      ⟨fun h => (h ▸ hperm).nil_eq.symm, fun h => (h ▸ hperm).eq_nil⟩
    have hsame : selected other filter = selected available filter :=
      (chosen_selected other filter).unique (chosen_selected available filter) hperm
    simp only [logs_eq, hempty, hsame]

/-- Partition 0 twice among others, in two orders, with 0 as the filter. -/
theorem logs_exact_zero_twice :
    ([2, 0, 1, 0] : List Int) ≠ [] ∧
    (∀ wanted : Int, some 0 = some wanted → wanted ∈ ([2, 0, 1, 0] : List Int)) ∧
    ([0, 1, 2, 0] : List Int).Perm [2, 0, 1, 0] ∧
    Selection.logs "t" (some [0, 1, 2, 0]) (some 0) = .ok [⟨"t", 0⟩, ⟨"t", 0⟩] := by
  have hids : ([2, 0, 1, 0] : List Int) ≠ [] := by decide
  have hfilter : ∀ wanted : Int, some 0 = some wanted → wanted ∈ ([2, 0, 1, 0] : List Int) := by
    rintro wanted ⟨⟩
    decide
  have hperm : ([0, 1, 2, 0] : List Int).Perm [2, 0, 1, 0] := by decide
  have hzeros : Chosen [2, 0, 1, 0] (some 0) [0, 0] := by
    refine ⟨by decide, fun id => ?_⟩
    by_cases hzero : id = 0
    · subst hzero
      decide
    · rw [if_neg (by simpa using Ne.symm hzero), List.count_eq_zero]
      simpa using hzero
  rcases logs_exact "t" (some [2, 0, 1, 0]) (some 0) with ⟨-, -, hchosen, horder⟩
  rcases hchosen hids hfilter with ⟨chosen, hchosen, hlogs⟩
  refine ⟨hids, hfilter, hperm, ?_⟩
  rw [horder (some [0, 1, 2, 0]) hperm, hlogs, hchosen.unique hzeros (List.Perm.refl _)]
  rfl

end Selection

end RecordGateway
