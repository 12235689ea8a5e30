/-!
# Keyed lists

A keyed list is an association list from text keys, kept in ascending key order with each key
at most once. It is the map that JSON objects, inventories and repository listings are read
into: entries come out sorted, and writing a key that is already present replaces its value,
so the last of several writes wins.

* `get?_insert_self`: after `insert k v`, looking up `k` gives `v`.
* `get?_insert_ne`: `insert k v` leaves every other key alone.
-/

namespace Rollout

namespace Keyed

variable {α : Type}

/-- Writes `v` at `k`: placed in key order, replacing an entry with the same key. -/
def insert (k : String) (v : α) : List (String × α) → List (String × α)
  | [] => [(k, v)]
  | (k', v') :: rest =>
    if k < k' then (k, v) :: (k', v') :: rest
    else if k = k' then (k, v) :: rest
    else (k', v') :: insert k v rest

/-- The keyed list of the given entries, written in order: the last value of a key wins. -/
def ofList (entries : List (String × α)) : List (String × α) :=
  entries.foldl (fun acc e => insert e.1 e.2 acc) []

/-- The value at `k`, if any. -/
def get? (k : String) : List (String × α) → Option α
  | [] => none
  | (k', v) :: rest => if k = k' then some v else get? k rest

/-- Whether some entry has the key `k`. -/
def contains (k : String) (entries : List (String × α)) : Bool := (get? k entries).isSome

/-- The keys, in order. -/
def keys (entries : List (String × α)) : List String := entries.map (·.1)

theorem sizeOf_get?_lt [SizeOf α] {k : String} {v : α} :
    ∀ {entries : List (String × α)}, get? k entries = some v → sizeOf v < sizeOf entries
  | [], h => by simp [get?] at h
  | (k', v') :: rest, h => by
    unfold get? at h
    split at h
    · cases h
      simp only [List.cons.sizeOf_spec, Prod.mk.sizeOf_spec]
      omega
    · have := sizeOf_get?_lt h
      simp only [List.cons.sizeOf_spec]
      omega

theorem get?_insert_self (k : String) (v : α) (entries : List (String × α)) :
    get? k (insert k v entries) = some v := by
  induction entries with
  | nil => simp [insert, get?]
  | cons e rest ih =>
    obtain ⟨k', v'⟩ := e
    unfold insert
    by_cases h1 : k < k'
    · simp [h1, get?]
    · by_cases h2 : k = k'
      · simp [h2, get?]
      · simp [h1, h2, get?, ih]

theorem get?_insert_ne {k j : String} (h : j ≠ k) (v : α) (entries : List (String × α)) :
    get? j (insert k v entries) = get? j entries := by
  induction entries with
  | nil => simp [insert, get?, h]
  | cons e rest ih =>
    obtain ⟨k', v'⟩ := e
    unfold insert
    by_cases h1 : k < k'
    · simp [h1, get?, h]
    · by_cases h2 : k = k'
      · subst h2
        simp [get?, h]
      · simp only [h1, h2, if_false, get?]
        split <;> simp_all

end Keyed

end Rollout
