/-! Lists of keys with values, in the order in which the keys first came. Writing a key that is
there replaces its value and leaves its place; a new key goes to the end.

Two equations say all about writing: `get?_insert` for the values and `keys_insert` for the keys and
their order. So lists that are made by writing hold no key twice (`nodup_keys_ofPairs`). -/

namespace Pluck

/-- Keys with their values, oldest key first. -/
abbrev Entries (α : Type) := List (String × α)

namespace Entries

variable {α : Type}

def keys (entries : Entries α) : List String := entries.map Prod.fst

/-- The value of the first entry under `key`. -/
def get? (key : String) : Entries α → Option α
  | [] => none
  | (k, v) :: rest => if k = key then some v else get? key rest

def insert (key : String) (value : α) : Entries α → Entries α
  | [] => [(key, value)]
  | (k, v) :: rest => if k = key then (k, value) :: rest else (k, v) :: insert key value rest

/-- Writes the pairs one after the other into `entries`. -/
def insertAll (entries : Entries α) (pairs : List (String × α)) : Entries α :=
  pairs.foldl (fun written pair => insert pair.1 pair.2 written) entries

/-- The entries that are left after writing the pairs in order. -/
def ofPairs (pairs : List (String × α)) : Entries α := insertAll [] pairs

def erase (key : String) (entries : Entries α) : Entries α :=
  entries.filter (fun entry => entry.1 ≠ key)

theorem get?_insert (key k : String) (value : α) (entries : Entries α) :
    get? k (insert key value entries) = if key = k then some value else get? k entries := by
  induction entries with
  | nil => rfl
  | cons entry rest ih =>
      by_cases hk : entry.1 = key
      · by_cases h : key = k <;> simp_all [insert, get?]
      · by_cases h : entry.1 = k
        · have hne : k ≠ key := fun e => hk (h.trans e)
          simp [insert, get?, h, hne, hne.symm]
        · simp [insert, get?, hk, h, ih]

theorem get?_eq_none_iff (key : String) (entries : Entries α) :
    get? key entries = none ↔ key ∉ keys entries := by
  induction entries with
  | nil => simp [get?, keys]
  | cons entry rest ih =>
      by_cases h : entry.1 = key
      · simp [get?, keys, h]
      · simpa [get?, keys, h, Ne.symm h] using ih

theorem keys_insert (key : String) (value : α) (entries : Entries α) :
    keys (insert key value entries) =
      if key ∈ keys entries then keys entries else keys entries ++ [key] := by
  induction entries with
  | nil => simp [insert, keys]
  | cons entry rest ih =>
      by_cases h : entry.1 = key
      · simp [insert, keys, h]
      · by_cases hm : key ∈ keys rest <;> simp_all [insert, keys, Ne.symm h]

theorem nodup_keys_insert (key : String) (value : α) {entries : Entries α}
    (h : (keys entries).Nodup) : (keys (insert key value entries)).Nodup := by
  rw [keys_insert]
  split
  · exact h
  · next hm =>
      refine List.nodup_append.2 ⟨h, by simp, fun k hk other ho e => hm ?_⟩
      rwa [← List.mem_singleton.1 ho, ← e]

theorem nodup_keys_insertAll (pairs : List (String × α)) {entries : Entries α}
    (h : (keys entries).Nodup) : (keys (insertAll entries pairs)).Nodup := by
  induction pairs generalizing entries with
  | nil => exact h
  | cons pair rest ih => exact ih (nodup_keys_insert pair.1 pair.2 h)

theorem nodup_keys_ofPairs (pairs : List (String × α)) : (keys (ofPairs pairs)).Nodup :=
  nodup_keys_insertAll pairs List.nodup_nil

end Entries
end Pluck
