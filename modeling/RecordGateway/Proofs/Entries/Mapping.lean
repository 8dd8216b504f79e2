import Mathlib.Data.List.Basic
import Mathlib.Data.List.Induction
import RecordGateway.Proofs.Entries

/-!
# Mappings Made from Pairs

What a mapping is, said without the way in which it is made. Its keys are the distinct keys of the
pairs, in the order in which they first come, and a key holds what it holds in the last of them.

A mapping is settled by these two, its keys in their order and what each of them holds, and so two
ways of making one can be compared without looking at the steps. In this way the mapping of two
lists of pairs is that of the first, updated with that of the second: the old keys keep their
places, and the new ones follow.

## Theorems

* `keys_ofPairs`: the keys of a mapping.
* `keys_update`, `get?_update_of_nodup`: a mapping that is updated.
* `eq_of_get?`: a mapping is settled by its keys and by what they hold.
* `ofPairs_append`: the mapping of two lists of pairs.
* `filter_ofPairs`: the part of a mapping that has certain keys.
* `get?_reverse`: what a key holds in the last pair with it.
-/

namespace RecordGateway

namespace Entries

variable {κ α : Type} [DecidableEq κ]

/-- One more member at the end of a list is new or is there already. -/
theorem eraseDups_concat (keys : List κ) (key : κ) :
    (keys ++ [key]).eraseDups =
      if key ∈ keys then keys.eraseDups else keys.eraseDups ++ [key] := by
  rw [List.eraseDups_append, List.removeAll, List.filter_singleton, List.elem_eq_mem]
  by_cases hkey : key ∈ keys
  · simp only [hkey, decide_true, Bool.not_true, cond_false, if_true, List.eraseDups_nil,
      List.append_nil]
  · simp only [hkey, decide_false, Bool.not_false, cond_true, if_false, List.eraseDups_cons,
      List.filter_nil, List.eraseDups_nil]

theorem eraseDups_filter (p : κ → Bool) (keys : List κ) :
    (keys.filter p).eraseDups = keys.eraseDups.filter p := by
  induction keys using List.reverseRecOn with
  | nil => rfl
  | append_singleton keys key ih =>
      rw [List.filter_append, List.filter_singleton, eraseDups_concat]
      by_cases hp : p key = true
      · have hmem : key ∈ keys.filter p ↔ key ∈ keys := by
          rw [List.mem_filter, and_iff_left hp]
        rw [hp, cond_true, eraseDups_concat]
        by_cases hkey : key ∈ keys
        · rw [if_pos (hmem.mpr hkey), if_pos hkey, ih]
        · rw [if_neg (mt hmem.mp hkey), if_neg hkey, ih, List.filter_append, List.filter_singleton,
            hp, cond_true]
      · rw [Bool.not_eq_true] at hp
        rw [hp, cond_false, List.append_nil, ih]
        by_cases hkey : key ∈ keys
        · rw [if_pos hkey]
        · rw [if_neg hkey, List.filter_append, List.filter_singleton, hp, cond_false,
            List.append_nil]

theorem eraseDups_of_nodup {keys : List κ} (h : keys.Nodup) : keys.eraseDups = keys := by
  induction keys with
  | nil => rfl
  | cons key keys ih =>
      rcases List.nodup_cons.mp h with ⟨hnew, hkeys⟩
      have hkeep : keys.filter (fun other => !other == key) = keys := by
        refine List.filter_eq_self.mpr fun other hother => ?_
        rw [Bool.not_eq_true', beq_eq_false_iff_ne]
        rintro rfl
        exact hnew hother
      rw [List.eraseDups_cons, hkeep, ih hkeys]

/-- A mapping has the distinct keys of the pairs that it is made from, in the order in which they
    first come. -/
theorem keys_ofPairs (pairs : List (κ × α)) :
    (ofPairs pairs).map Prod.fst = (pairs.map Prod.fst).eraseDups := by
  induction pairs using List.reverseRecOn with
  | nil => rfl
  | append_singleton pairs pair ih =>
      have hput : ofPairs (pairs ++ [pair]) = put pair.1 pair.2 (ofPairs pairs) := by
        unfold ofPairs update
        rw [List.foldl_append]
        rfl
      have hmem : pair.1 ∈ (pairs.map Prod.fst).eraseDups ↔ pair.1 ∈ pairs.map Prod.fst :=
        List.mem_eraseDups
      rw [hput, keys_put, ih, List.map_append, List.map_singleton, eraseDups_concat]
      simp only [hmem]

/-- Setting keys in a mapping is making a mapping from what it holds and the new pairs. -/
theorem update_eq_ofPairs {entries : List (κ × α)} (h : (entries.map Prod.fst).Nodup)
    (pairs : List (κ × α)) : update entries pairs = ofPairs (entries ++ pairs) := by
  have hentries : update [] entries = entries := ofPairs_of_nodup h
  unfold ofPairs update at *
  rw [List.foldl_append, hentries]

theorem nodup_eraseDups (keys : List κ) : keys.eraseDups.Nodup := by
  have hnodup := nodup_keys_ofPairs (keys.map fun key => (key, ()))
  rw [keys_ofPairs, keys_map] at hnodup
  exact hnodup

/-- Setting the keys of a mapping in another one leaves the old keys in their places, and the new
    ones follow in their order. -/
theorem keys_update {entries pairs : List (κ × α)} (hentries : (entries.map Prod.fst).Nodup)
    (hpairs : (pairs.map Prod.fst).Nodup) :
    (update entries pairs).map Prod.fst =
      entries.map Prod.fst ++
        (pairs.map Prod.fst).filter fun key => key ∉ entries.map Prod.fst := by
  have hfilter : (pairs.map Prod.fst).removeAll (entries.map Prod.fst) =
      (pairs.map Prod.fst).filter fun key => key ∉ entries.map Prod.fst := by
    refine congrArg₂ List.filter (funext fun key => ?_) rfl
    rw [List.elem_eq_mem, decide_not]
  rw [update_eq_ofPairs hentries, keys_ofPairs, List.map_append, List.eraseDups_append,
    eraseDups_of_nodup hentries, hfilter, eraseDups_of_nodup (hpairs.filter _)]

/-- Entries with the same keys that hold the same are the same. -/
theorem eq_of_get? {xs ys : List (κ × α)} (hkeys : xs.map Prod.fst = ys.map Prod.fst)
    (hnodup : (xs.map Prod.fst).Nodup) (hget : ∀ key, get? key xs = get? key ys) : xs = ys := by
  induction xs generalizing ys with
  | nil => exact (List.map_eq_nil_iff.mp hkeys.symm).symm
  | cons x xs ih =>
      cases ys with
      | nil => cases hkeys
      | cons y ys =>
          rcases x with ⟨k, v⟩
          rcases y with ⟨k', v'⟩
          rw [List.map_cons, List.map_cons, List.cons.injEq] at hkeys
          rcases hkeys with ⟨rfl, hkeys⟩
          rw [List.map_cons, List.nodup_cons] at hnodup
          have hvalue := hget k
          rw [get?, get?, if_pos rfl, if_pos rfl, Option.some.injEq] at hvalue
          rw [hvalue, ih hkeys hnodup.2 fun key => ?_]
          by_cases hk : k = key
          · -- The first key is not there again, on neither side.
            subst hk
            rw [get?_eq_none_iff.mpr hnodup.1, get?_eq_none_iff.mpr (hkeys ▸ hnodup.1)]
          · have hrest := hget key
            rwa [get?, get?, if_neg hk, if_neg hk] at hrest

/-- A key holds in a mapping that is updated what it holds in the update, if anything. -/
theorem get?_update_of_nodup (key : κ) {pairs : List (κ × α)} (h : (pairs.map Prod.fst).Nodup)
    (entries : List (κ × α)) :
    get? key (update entries pairs) = (get? key pairs).or (get? key entries) := by
  have hsame : get? key pairs.reverse = get? key pairs := by
    rw [← get?_ofPairs, ofPairs_of_nodup h]
  rw [get?_update, hsame]

/-- The mapping of two lists of pairs is the mapping of the first, updated with that of the
    second. -/
theorem ofPairs_append (xs ys : List (κ × α)) :
    ofPairs (xs ++ ys) = update (ofPairs xs) (ofPairs ys) := by
  refine eq_of_get? ?_ (nodup_keys_ofPairs _) fun key => ?_
  · rw [keys_update (nodup_keys_ofPairs xs) (nodup_keys_ofPairs ys), keys_ofPairs, keys_ofPairs,
      keys_ofPairs, List.map_append, List.eraseDups_append, List.removeAll, eraseDups_filter]
    refine congrArg _ (congrArg₂ List.filter (funext fun key => ?_) rfl)
    rw [List.elem_eq_mem, decide_not]
    simp only [List.mem_eraseDups]
  · rw [get?_update_of_nodup key (nodup_keys_ofPairs ys), get?_ofPairs, get?_ofPairs, get?_ofPairs,
      List.reverse_append, get?_append]

/-- Only the entries with certain keys count for what they hold. -/
theorem get?_filter (p : κ → Bool) {key : κ} (h : p key = true) (entries : List (κ × α)) :
    get? key (entries.filter fun entry => p entry.1) = get? key entries := by
  induction entries with
  | nil => rfl
  | cons entry rest ih =>
      rcases entry with ⟨k, v⟩
      by_cases hk : k = key
      · subst hk
        simp [get?, h]
      · by_cases hp : p k = true <;> simp [get?, hk, hp, ih]

theorem filter_put (p : κ → Bool) (key : κ) (value : α) (entries : List (κ × α)) :
    (put key value entries).filter (fun entry => p entry.1) =
      if p key then put key value (entries.filter fun entry => p entry.1)
      else entries.filter fun entry => p entry.1 := by
  induction entries with
  | nil => by_cases hkey : p key = true <;> simp [put, hkey]
  | cons entry rest ih =>
      rcases entry with ⟨k, v⟩
      by_cases hk : k = key
      · subst hk
        by_cases hp : p k = true <;> simp [put, hp]
      · by_cases hkey : p key = true <;> by_cases hp : p k = true <;> simp [put, hk, hkey, hp, ih]

/-- The part of a mapping with certain keys is the mapping of the pairs with these keys. -/
theorem filter_ofPairs (p : κ → Bool) (pairs : List (κ × α)) :
    (ofPairs pairs).filter (fun entry => p entry.1) =
      ofPairs (pairs.filter fun pair => p pair.1) := by
  induction pairs using List.reverseRecOn with
  | nil => rfl
  | append_singleton pairs pair ih =>
      have hput : ∀ xs : List (κ × α), ofPairs (xs ++ [pair]) = put pair.1 pair.2 (ofPairs xs) :=
        fun xs => List.foldl_concat _ _ _ _
      rw [hput, filter_put, ih, List.filter_append, List.filter_singleton]
      by_cases hp : p pair.1 = true
      · rw [if_pos hp, hp, cond_true, hput]
      · rw [if_neg hp, Bool.eq_false_iff.mpr hp, cond_false, List.append_nil]

theorem get?_eq_head? (key : κ) (entries : List (κ × α)) :
    get? key entries =
      (entries.filter fun entry => entry.1 = key).head?.map Prod.snd := by
  induction entries with
  | nil => rfl
  | cons entry rest ih =>
      rcases entry with ⟨k, v⟩
      by_cases hk : k = key <;> simp [get?, hk, ih]

/-- The last pair with a key, looked for from the end. -/
theorem get?_reverse (key : κ) (pairs : List (κ × α)) :
    get? key pairs.reverse =
      (pairs.filter fun pair => pair.1 = key).getLast?.map Prod.snd := by
  rw [get?_eq_head?, List.filter_reverse, List.head?_reverse]

end Entries

end RecordGateway
