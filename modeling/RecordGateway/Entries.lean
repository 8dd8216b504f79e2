/-!
# Lists of Entries

A mapping whose order shows is a list of pairs. Setting the value of a key that
is there keeps its place; a new key goes to the end. So the mapping made from a
list of pairs has each key once, at its first place and with its last value.

## Main definitions

* `Entries.put`: set the value of a key.
* `Entries.update`: set the values of many keys in turn.
* `Entries.ofPairs`: the mapping of a list of pairs.
* `Entries.get?`: the value of a key.

## Theorems

* `keys_put_of_mem`: setting a key that is there changes no key.
* `get?_put`: what a key holds after a key was set.
-/

namespace RecordGateway

namespace Entries

variable {κ α : Type} [DecidableEq κ]

/-- Set the value of a key: in place if the key is there, else at the end. -/
def put (key : κ) (value : α) : List (κ × α) → List (κ × α)
  | [] => [(key, value)]
  | (k, v) :: rest => if k = key then (k, value) :: rest else (k, v) :: put key value rest

/-- Set the values of many keys, one after another. -/
def update (entries pairs : List (κ × α)) : List (κ × α) :=
  pairs.foldl (fun acc pair => put pair.1 pair.2 acc) entries

/-- The mapping of a list of pairs: first place and last value of each key. -/
def ofPairs (pairs : List (κ × α)) : List (κ × α) :=
  update [] pairs

/-- The value of a key. -/
def get? (key : κ) : List (κ × α) → Option α
  | [] => none
  | (k, v) :: rest => if k = key then some v else get? key rest

/-- Setting a key that is there changes no key. -/
theorem keys_put_of_mem {key : κ} {value : α} {entries : List (κ × α)}
    (h : key ∈ entries.map Prod.fst) :
    (put key value entries).map Prod.fst = entries.map Prod.fst := by
  induction entries with
  | nil => simp at h
  | cons pair rest ih =>
    obtain ⟨k, v⟩ := pair
    by_cases hk : k = key
    · simp [put, hk]
    · have hr : key ∈ rest.map Prod.fst := by
        simpa [Ne.symm hk, eq_comm] using h
      simp only [put, hk, if_false, List.map_cons, ih hr]

/-- After a key was set, it holds its value and the other keys hold theirs. -/
theorem get?_put (key other : κ) (value : α) (entries : List (κ × α)) :
    get? other (put key value entries) =
      if key = other then some value else get? other entries := by
  induction entries with
  | nil => simp [put, get?]
  | cons pair rest ih =>
    obtain ⟨k, v⟩ := pair
    by_cases hk : k = key
    · subst hk
      by_cases ho : k = other <;> simp [put, get?, ho]
    · by_cases ho : key = other
      · subst ho
        simp [put, get?, hk, ih]
      · by_cases hko : k = other
        · subst hko
          simp [put, get?, hk, ho]
        · simp [put, get?, hk, hko, ih, ho]

end Entries

end RecordGateway
