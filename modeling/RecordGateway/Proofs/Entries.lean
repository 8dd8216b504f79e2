import RecordGateway.Entries

/-!
# Keys and Values of Entries

A list of pairs is read in two ways: by its keys, which have an order, and by looking up
what a key holds. Setting keys is well behaved for both. No key is there twice in a
mapping, and the keys come in the order in which they were first set; that is stated as
a sublist, which is enough to carry over anything that holds of the keys pairwise.

## Theorems

* `keys_map`: the keys of entries made from them.
* `keys_put`: a key that is new goes to the end.
* `nodup_keys_ofPairs`, `keys_ofPairs_sublist`, `mem_keys_ofPairs`: the keys of a mapping.
* `ofPairs_of_nodup`: pairs with distinct keys are a mapping as they stand.
* `get?_eq_none_iff`, `mem_of_get?_eq_some`, `get?_eq_some_of_mem`: what is there is
  found, and nothing else.
* `get?_append`: the first of two lists of entries counts.
* `get?_ofPairs`: the last of the pairs that a mapping is made from counts.
* `get?_map`, `get?_filterMap`: looking up in a list made from its keys.
* `get?_filterMap_of_mem`: looking up in a list made from other entries.
-/

namespace RecordGateway

variable {α β : Type}

namespace Entries

variable {κ : Type}

/-- Entries made from their keys have these keys. -/
theorem keys_map (f : κ → α) (keys : List κ) :
    (keys.map fun k => (k, f k)).map Prod.fst = keys := by
  rw [List.map_map]
  exact List.map_id keys

variable [DecidableEq κ]

/-- Setting a key that is not there puts it at the end. -/
theorem put_of_not_mem {key : κ} {value : α} {entries : List (κ × α)}
    (h : key ∉ entries.map Prod.fst) : put key value entries = entries ++ [(key, value)] := by
  induction entries with
  | nil => rfl
  | cons pair rest ih =>
      rcases pair with ⟨k, v⟩
      rw [List.map_cons, List.mem_cons, not_or] at h
      rw [put, if_neg (Ne.symm h.1), ih h.2]
      rfl

theorem mem_of_mem_put {key : κ} {value : α} {pair : κ × α} {entries : List (κ × α)}
    (h : pair ∈ put key value entries) : pair = (key, value) ∨ pair ∈ entries := by
  induction entries with
  | nil => exact Or.inl (List.mem_singleton.mp h)
  | cons first rest ih =>
      rcases first with ⟨k, v⟩
      rw [put] at h
      by_cases hk : k = key
      · rw [if_pos hk, List.mem_cons, hk] at h
        exact h.imp_right (List.mem_cons_of_mem _)
      · rw [if_neg hk, List.mem_cons] at h
        rcases h with h | h
        · exact Or.inr (h ▸ List.mem_cons_self)
        · exact (ih h).imp_right (List.mem_cons_of_mem _)

/-- What is in a mapping after several keys were set was there or was set. -/
theorem mem_of_mem_update {pair : κ × α} {pairs entries : List (κ × α)}
    (h : pair ∈ update entries pairs) : pair ∈ entries ∨ pair ∈ pairs := by
  induction pairs generalizing entries with
  | nil => exact Or.inl h
  | cons first rest ih =>
      rcases ih h with h' | h'
      · rcases mem_of_mem_put h' with rfl | h'
        · exact Or.inr List.mem_cons_self
        · exact Or.inl h'
      · exact Or.inr (List.mem_cons_of_mem first h')

/-- A key that is new goes to the end. -/
theorem keys_put (key : κ) (value : α) (entries : List (κ × α)) :
    (put key value entries).map Prod.fst =
      if key ∈ entries.map Prod.fst then entries.map Prod.fst
      else entries.map Prod.fst ++ [key] := by
  by_cases hkey : key ∈ entries.map Prod.fst
  · rw [if_pos hkey, keys_put_of_mem hkey]
  · rw [if_neg hkey, put_of_not_mem hkey, List.map_append]
    rfl

/-- Only new keys are added, so no key is there twice if none was. -/
theorem nodup_keys_update (pairs : List (κ × α)) {entries : List (κ × α)}
    (h : (entries.map Prod.fst).Nodup) : ((update entries pairs).map Prod.fst).Nodup := by
  induction pairs generalizing entries with
  | nil => exact h
  | cons first rest ih =>
      suffices hput : ((put first.1 first.2 entries).map Prod.fst).Nodup from ih hput
      rw [keys_put]
      by_cases hkey : first.1 ∈ entries.map Prod.fst
      · rw [if_pos hkey]
        exact h
      · rw [if_neg hkey]
        refine List.nodup_append.mpr ⟨h, List.pairwise_singleton _ _, fun k hk k' hk' hkk' => ?_⟩
        rw [hkk', List.mem_singleton.mp hk'] at hk
        exact hkey hk

/-- The keys of a mapping come in the order in which they were set. -/
theorem keys_update_sublist (pairs entries : List (κ × α)) :
    ((update entries pairs).map Prod.fst).Sublist
      (entries.map Prod.fst ++ pairs.map Prod.fst) := by
  induction pairs generalizing entries with
  | nil =>
      rw [List.map_nil, List.append_nil]
      exact List.Sublist.refl _
  | cons first rest ih =>
      refine (ih (put first.1 first.2 entries)).trans ?_
      rw [keys_put]
      by_cases hkey : first.1 ∈ entries.map Prod.fst
      · rw [if_pos hkey]
        exact (List.sublist_cons_self first.1 _).append_left _
      · rw [if_neg hkey, List.append_assoc]
        exact List.Sublist.refl _

theorem mem_keys_put (key other : κ) (value : α) (entries : List (κ × α)) :
    other ∈ (put key value entries).map Prod.fst ↔
      other ∈ entries.map Prod.fst ∨ other = key := by
  rw [keys_put]
  by_cases hkey : key ∈ entries.map Prod.fst
  · rw [if_pos hkey]
    refine ⟨Or.inl, fun h => h.elim id ?_⟩
    rintro rfl
    exact hkey
  · rw [if_neg hkey, List.mem_append, List.mem_singleton]

theorem mem_keys_update (key : κ) (pairs entries : List (κ × α)) :
    key ∈ (update entries pairs).map Prod.fst ↔
      key ∈ entries.map Prod.fst ∨ key ∈ pairs.map Prod.fst := by
  induction pairs generalizing entries with
  | nil =>
      rw [List.map_nil]
      exact ⟨Or.inl, fun h => h.elim id (fun h => absurd h List.not_mem_nil)⟩
  | cons first rest ih =>
      refine (ih (put first.1 first.2 entries)).trans ?_
      rw [mem_keys_put, or_assoc, List.map_cons, List.mem_cons]

theorem nodup_keys_ofPairs (pairs : List (κ × α)) : ((ofPairs pairs).map Prod.fst).Nodup :=
  nodup_keys_update pairs List.nodup_nil

/-- Keys that are not there yet are added in their order. -/
theorem update_of_nodup {pairs entries : List (κ × α)}
    (h : ((entries ++ pairs).map Prod.fst).Nodup) : update entries pairs = entries ++ pairs := by
  induction pairs generalizing entries with
  | nil => exact (List.append_nil entries).symm
  | cons first rest ih =>
      have hnew : first.1 ∉ entries.map Prod.fst := by
        intro hmem
        rw [List.map_append, List.map_cons] at h
        exact (List.nodup_append.mp h).2.2 _ hmem _ List.mem_cons_self rfl
      have hput : put first.1 first.2 entries = entries ++ [first] := put_of_not_mem hnew
      change update (put first.1 first.2 entries) rest = entries ++ first :: rest
      rw [hput, List.append_cons entries first rest] at *
      exact ih h

/-- Pairs with distinct keys are the mapping that is made from them. -/
theorem ofPairs_of_nodup {pairs : List (κ × α)} (h : (pairs.map Prod.fst).Nodup) :
    ofPairs pairs = pairs :=
  update_of_nodup h

theorem keys_ofPairs_sublist (pairs : List (κ × α)) :
    ((ofPairs pairs).map Prod.fst).Sublist (pairs.map Prod.fst) :=
  keys_update_sublist pairs []

theorem mem_keys_ofPairs (key : κ) (pairs : List (κ × α)) :
    key ∈ (ofPairs pairs).map Prod.fst ↔ key ∈ pairs.map Prod.fst := by
  refine (mem_keys_update key pairs []).trans ?_
  rw [List.map_nil]
  exact ⟨fun h => h.elim (fun h => absurd h List.not_mem_nil) id, Or.inr⟩

theorem mem_of_mem_ofPairs {pair : κ × α} {pairs : List (κ × α)} (h : pair ∈ ofPairs pairs) :
    pair ∈ pairs :=
  (mem_of_mem_update h).elim (fun h => absurd h List.not_mem_nil) id

/-- What a key holds in the first of two lists counts. -/
theorem get?_append (key : κ) (entries more : List (κ × α)) :
    get? key (entries ++ more) = (get? key entries).or (get? key more) := by
  induction entries with
  | nil => rfl
  | cons pair rest ih =>
      rcases pair with ⟨k, v⟩
      rw [List.cons_append, get?, get?]
      by_cases hk : k = key
      · rw [if_pos hk, if_pos hk]
        rfl
      · rw [if_neg hk, if_neg hk, ih]

/-- Of the pairs that are set in turn, the last one with a key counts. -/
theorem get?_update (key : κ) (pairs entries : List (κ × α)) :
    get? key (update entries pairs) = (get? key pairs.reverse).or (get? key entries) := by
  induction pairs generalizing entries with
  | nil => rfl
  | cons first rest ih =>
      rcases first with ⟨k, v⟩
      refine (ih (put k v entries)).trans ?_
      rw [List.reverse_cons, get?_append, Option.or_assoc, get?_put, get?, get?]
      by_cases hk : k = key
      · rw [if_pos hk, if_pos hk]
        rfl
      · rw [if_neg hk, if_neg hk]
        rfl

/-- A key holds in a mapping what it holds in the last pair that it is made from. -/
theorem get?_ofPairs (key : κ) (pairs : List (κ × α)) :
    get? key (ofPairs pairs) = get? key pairs.reverse :=
  (get?_update key pairs []).trans (Option.or_none)

theorem get?_map_snd (f : α → β) (key : κ) (entries : List (κ × α)) :
    get? key (entries.map fun (k, v) => (k, f v)) = (get? key entries).map f := by
  induction entries with
  | nil => rfl
  | cons pair rest ih =>
      rcases pair with ⟨k, v⟩
      rw [List.map_cons, get?, get?, ih]
      by_cases hk : k = key
      · rw [if_pos hk, if_pos hk]
        rfl
      · rw [if_neg hk, if_neg hk]

/-- A key holds nothing exactly if it is not there. -/
theorem get?_eq_none_iff {key : κ} {entries : List (κ × α)} :
    get? key entries = none ↔ key ∉ entries.map Prod.fst := by
  induction entries with
  | nil => exact ⟨fun _ => List.not_mem_nil, fun _ => rfl⟩
  | cons pair rest ih =>
      rcases pair with ⟨k, v⟩
      rw [get?, List.map_cons, List.mem_cons, not_or]
      by_cases hk : k = key
      · rw [if_pos hk]
        refine ⟨fun h => ?_, fun h => absurd hk.symm h.1⟩
        cases h
      · rw [if_neg hk, ih]
        exact ⟨fun h => ⟨Ne.symm hk, h⟩, And.right⟩

/-- What a key holds is there with it. -/
theorem mem_of_get?_eq_some {key : κ} {value : α} {entries : List (κ × α)}
    (h : get? key entries = some value) : (key, value) ∈ entries := by
  induction entries with
  | nil => cases h
  | cons pair rest ih =>
      rcases pair with ⟨k, v⟩
      rw [get?] at h
      by_cases hk : k = key
      · rw [if_pos hk, Option.some.injEq] at h
        rw [hk, h]
        exact List.mem_cons_self
      · rw [if_neg hk] at h
        exact List.mem_cons_of_mem _ (ih h)

/-- An entry whose key is there once is found under its key. -/
theorem get?_eq_some_of_mem {key : κ} {value : α} {entries : List (κ × α)}
    (hnodup : (entries.map Prod.fst).Nodup) (h : (key, value) ∈ entries) :
    get? key entries = some value := by
  induction entries with
  | nil => exact absurd h List.not_mem_nil
  | cons pair rest ih =>
      rcases pair with ⟨k, v⟩
      rw [List.map_cons, List.nodup_cons] at hnodup
      rw [get?]
      rcases List.mem_cons.mp h with heq | hrest
      · cases heq
        exact if_pos rfl
      · have hk : k ≠ key := by
          rintro rfl
          exact hnodup.1 (List.mem_map.mpr ⟨_, hrest, rfl⟩)
        rw [if_neg hk]
        exact ih hnodup.2 hrest

/-- Entries in which one key holds something and no other does are that one entry. -/
theorem eq_singleton_of_get? {key : κ} {value : α} {entries : List (κ × α)}
    (hnodup : (entries.map Prod.fst).Nodup)
    (h : ∀ other, get? other entries = if other = key then some value else none) :
    entries = [(key, value)] := by
  have hmem : (key, value) ∈ entries := mem_of_get?_eq_some (by rw [h key, if_pos rfl])
  -- Every entry is found under its key, so it is this one.
  have hall : ∀ pair ∈ entries, pair = (key, value) := by
    intro pair hpair
    have hget := get?_eq_some_of_mem hnodup hpair
    rw [h pair.1] at hget
    by_cases hk : pair.1 = key
    · rw [if_pos hk, Option.some.injEq] at hget
      rw [← hk, hget]
    · rw [if_neg hk] at hget
      cases hget
  cases entries with
  | nil => exact absurd hmem List.not_mem_nil
  | cons pair rest =>
      rw [List.map_cons, List.nodup_cons] at hnodup
      have hrest : rest = [] := by
        refine List.eq_nil_iff_forall_not_mem.mpr fun other hother => hnodup.1 ?_
        rw [hall pair List.mem_cons_self, ← hall other (List.mem_cons_of_mem pair hother)]
        exact List.mem_map_of_mem hother
      rw [hrest, hall pair List.mem_cons_self]

/-- Looking up a key among entries made from their keys, where there is a value. -/
theorem get?_filterMap (f : κ → Option α) (keys : List κ) (key : κ) :
    get? key (keys.filterMap fun k => (f k).map fun value => (k, value)) =
      if key ∈ keys then f key else none := by
  induction keys with
  | nil => rfl
  | cons k rest ih =>
      rw [List.filterMap_cons]
      by_cases hk : k = key
      · subst hk
        rw [if_pos List.mem_cons_self]
        cases hf : f k with
        | some value => exact if_pos rfl
        | none =>
            -- The key may be there again, but it never has a value.
            simp only [Option.map_none]
            rw [ih, hf]
            exact ite_self none
      · have hmem : key ∈ k :: rest ↔ key ∈ rest := by
          rw [List.mem_cons, or_iff_right (Ne.symm hk)]
        simp only [hmem]
        rw [← ih]
        cases f k with
        | some value => exact if_neg hk
        | none => rfl

/-- Looking up a key among entries made from their keys. -/
theorem get?_map (f : κ → α) (keys : List κ) (key : κ) :
    get? key (keys.map fun k => (k, f k)) = if key ∈ keys then some (f key) else none := by
  rw [← get?_filterMap (fun k => some (f k)) keys key]
  refine congrArg _ ?_
  exact (congrFun List.filterMap_eq_map' keys).symm

/-- Looking up a key among entries made from others, where there is a value. -/
theorem get?_filterMap_of_mem {pairs : List (κ × α)} (hnodup : (pairs.map Prod.fst).Nodup)
    (f : κ → α → Option β) {key : κ} {value : α} (h : (key, value) ∈ pairs) :
    get? key (pairs.filterMap fun pair => (f pair.1 pair.2).map fun v => (pair.1, v)) =
      f key value := by
  induction pairs with
  | nil => exact absurd h List.not_mem_nil
  | cons pair rest ih =>
      rcases pair with ⟨k, a⟩
      rw [List.map_cons, List.nodup_cons] at hnodup
      rw [List.filterMap_cons]
      rcases List.mem_cons.mp h with heq | hrest
      · cases heq
        cases hf : f key value with
        | some v => exact if_pos rfl
        | none =>
            -- Without a value for it, the key is nowhere.
            refine get?_eq_none_iff.mpr fun hmem => ?_
            rcases List.mem_map.mp hmem with ⟨entry, hentry, hkey⟩
            rcases List.mem_filterMap.mp hentry with ⟨source, hsource, hmade⟩
            rcases Option.map_eq_some_iff.mp hmade with ⟨v, -, rfl⟩
            exact hnodup.1 (List.mem_map.mpr ⟨source, hsource, hkey⟩)
      · have hk : k ≠ key := by
          rintro rfl
          exact hnodup.1 (List.mem_map.mpr ⟨_, hrest, rfl⟩)
        rw [← ih hnodup.2 hrest]
        cases f k a with
        | some v => exact if_neg hk
        | none => rfl

end Entries

end RecordGateway
