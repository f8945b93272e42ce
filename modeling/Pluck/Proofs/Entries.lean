import Mathlib.Data.List.Induction
import Pluck.Entries

/-!
What a list of pairs leaves behind when it is written in order.

* `get?_ofPairs`: under each key stands the value of its last pair;
* `keys_ofPairs`: the keys stand in the order of their first pairs;
* `insertAll_ofPairs`: to write these entries elsewhere is to write the pairs;
* `ext_get?`: lists of entries with the same keys in the same order and the same values are equal,
  so the first two equations determine the result.
-/

namespace Pluck

/-- An element at the end stays if it is new. -/
theorem eraseDups_concat {α : Type} [DecidableEq α] (xs : List α) (x : α) :
    (xs ++ [x]).eraseDups = if x ∈ xs then xs.eraseDups else xs.eraseDups ++ [x] := by
  rw [List.eraseDups_append]
  by_cases h : x ∈ xs
  · simp [h, List.removeAll]
  · simp [h, List.removeAll, List.eraseDups_cons]

namespace Entries

variable {α β : Type}

theorem get?_append (key : String) (xs ys : Entries α) :
    get? key (xs ++ ys) = (get? key xs).or (get? key ys) := by
  induction xs with
  | nil => rfl
  | cons entry rest ih =>
      by_cases h : entry.1 = key
      · simp [get?, h]
      · simp [get?, h, ih]

theorem mem_of_get? {key : String} {value : α} {entries : Entries α}
    (h : get? key entries = some value) : (key, value) ∈ entries := by
  induction entries with
  | nil => simp [get?] at h
  | cons entry rest ih =>
      by_cases hk : entry.1 = key
      · have hv : entry.2 = value := by simpa [get?, hk] using h
        have he : entry = (key, value) := Prod.ext hk hv
        exact he ▸ List.mem_cons_self
      · exact List.mem_cons_of_mem entry (ih (by simpa [get?, hk] using h))

theorem get?_of_mem {key : String} {value : α} {entries : Entries α}
    (hn : (keys entries).Nodup) (h : (key, value) ∈ entries) :
    get? key entries = some value := by
  induction entries with
  | nil => simp at h
  | cons entry rest ih =>
      obtain ⟨hfresh, hrest⟩ := List.nodup_cons.1 hn
      rcases List.mem_cons.1 h with e | hm
      · simp [get?, ← e]
      · have hk : entry.1 ≠ key := by
          intro e
          exact hfresh (e ▸ List.mem_map_of_mem (f := Prod.fst) hm)
        simpa [get?, hk] using ih hrest hm

theorem mem_keys_iff (key : String) (entries : Entries α) :
    key ∈ keys entries ↔ ∃ value, get? key entries = some value := by
  have h := get?_eq_none_iff key entries
  cases hv : get? key entries with
  | none => simp [h.1 hv]
  | some value =>
      have hm : key ∈ keys entries := List.mem_map_of_mem (f := Prod.fst) (mem_of_get? hv)
      simp [hm]

theorem ext_get? {xs ys : Entries α} (hn : (keys xs).Nodup) (hk : keys xs = keys ys)
    (hv : ∀ key, get? key xs = get? key ys) : xs = ys := by
  induction xs generalizing ys with
  | nil => cases ys with
    | nil => rfl
    | cons y rest => simp [keys] at hk
  | cons x xs ih =>
      cases ys with
      | nil => simp [keys] at hk
      | cons y ys =>
          obtain ⟨hfresh, hrest⟩ := List.nodup_cons.1 hn
          obtain ⟨hfst, htail⟩ : x.1 = y.1 ∧ keys xs = keys ys := by simpa [keys] using hk
          have hsnd : x.2 = y.2 := by simpa [get?, hfst] using hv x.1
          have htails : ∀ key, get? key xs = get? key ys := by
            intro key
            by_cases h : x.1 = key
            · -- the key of the head is new to both tails
              have hx : get? key xs = none := (get?_eq_none_iff key xs).2 (h ▸ hfresh)
              have hy : get? key ys = none := (get?_eq_none_iff key ys).2 (h ▸ htail ▸ hfresh)
              rw [hx, hy]
            · have hh := hv key
              simpa [get?, h, show ¬ y.1 = key from hfst ▸ h] using hh
          rw [Prod.ext hfst hsnd, ih hrest htail htails]

theorem insertAll_append (entries : Entries α) (ps qs : List (String × α)) :
    insertAll entries (ps ++ qs) = insertAll (insertAll entries ps) qs := by
  simp [insertAll, List.foldl_append]

theorem get?_insertAll (key : String) (entries : Entries α) (pairs : List (String × α)) :
    get? key (insertAll entries pairs) = (get? key pairs.reverse).or (get? key entries) := by
  induction pairs generalizing entries with
  | nil => rfl
  | cons pair rest ih =>
      have hw : get? key (insert pair.1 pair.2 entries) =
          (get? key [pair]).or (get? key entries) := by
        rw [get?_insert]
        by_cases h : pair.1 = key <;> simp [get?, h]
      calc
        get? key (insertAll (insert pair.1 pair.2 entries) rest) =
            (get? key rest.reverse).or ((get? key [pair]).or (get? key entries)) := by
          rw [ih, hw]
        _ = (get? key (pair :: rest).reverse).or (get? key entries) := by
          rw [List.reverse_cons, get?_append, Option.or_assoc]

/-- The last pair of a key gives its value. -/
theorem get?_ofPairs (key : String) (pairs : List (String × α)) :
    get? key (ofPairs pairs) = get? key pairs.reverse := by
  rw [ofPairs, get?_insertAll]
  exact Option.or_none

/-- The keys that are there keep their places; new ones follow in the order of their first pairs. -/
theorem keys_insertAll (entries : Entries α) (pairs : List (String × α)) :
    keys (insertAll entries pairs) =
      keys entries ++ (keys pairs).eraseDups.removeAll (keys entries) := by
  induction pairs using List.reverseRecOn with
  | nil => simp [insertAll, keys, List.removeAll]
  | append_singleton pairs pair ih =>
      have hw : insertAll entries (pairs ++ [pair]) =
          insert pair.1 pair.2 (insertAll entries pairs) :=
        insertAll_append entries pairs [pair]
      have hk : keys (pairs ++ [pair]) = keys pairs ++ [pair.1] := by simp [keys]
      rw [hw, keys_insert, ih, hk, eraseDups_concat]
      by_cases h : pair.1 ∈ keys pairs
      · simp [h, List.removeAll]
      · by_cases he : pair.1 ∈ keys entries <;> simp [h, he, List.removeAll]

/-- The first pair of a key gives its place. -/
theorem keys_ofPairs (pairs : List (String × α)) :
    keys (ofPairs pairs) = (keys pairs).eraseDups := by
  rw [ofPairs, keys_insertAll]
  simp [keys, List.removeAll]

theorem mem_keys_ofPairs (key : String) (pairs : List (String × α)) :
    key ∈ keys (ofPairs pairs) ↔ key ∈ keys pairs := by
  rw [keys_ofPairs, List.mem_eraseDups]

theorem mem_of_mem_ofPairs {entry : String × α} {pairs : List (String × α)}
    (h : entry ∈ ofPairs pairs) : entry ∈ pairs := by
  have hg := get?_of_mem (nodup_keys_ofPairs pairs) h
  rw [get?_ofPairs] at hg
  exact List.mem_reverse.1 (mem_of_get? hg)

theorem insert_of_not_mem {key : String} (value : α) {entries : Entries α}
    (h : key ∉ keys entries) : insert key value entries = entries ++ [(key, value)] := by
  induction entries with
  | nil => rfl
  | cons entry rest ih =>
      obtain ⟨hhead, htail⟩ : entry.1 ≠ key ∧ key ∉ keys rest := by
        simpa [keys, eq_comm] using h
      simp [insert, hhead, ih htail]

theorem insertAll_of_nodup {entries : Entries α} {pairs : List (String × α)}
    (h : (keys (entries ++ pairs)).Nodup) : insertAll entries pairs = entries ++ pairs := by
  induction pairs generalizing entries with
  | nil => exact (List.append_nil entries).symm
  | cons pair rest ih =>
      have hsplit : entries ++ pair :: rest = (entries ++ [pair]) ++ rest := by simp
      have hfresh : pair.1 ∉ keys entries := by
        intro hm
        have hd := (List.nodup_append.1 (by simpa [keys] using h)).2.2 pair.1 hm
        exact hd pair.1 (by simp) rfl
      calc
        insertAll (insert pair.1 pair.2 entries) rest = insertAll (entries ++ [pair]) rest := by
          rw [insert_of_not_mem pair.2 hfresh]
        _ = entries ++ pair :: rest := by rw [ih (hsplit ▸ h), hsplit]

/-- Pairs whose keys differ are kept as they are. -/
theorem ofPairs_eq_self {pairs : List (String × α)} (h : (keys pairs).Nodup) :
    ofPairs pairs = pairs := by
  have hw : insertAll [] pairs = [] ++ pairs := insertAll_of_nodup h
  exact hw

theorem ofPairs_ofPairs (pairs : List (String × α)) : ofPairs (ofPairs pairs) = ofPairs pairs :=
  ofPairs_eq_self (nodup_keys_ofPairs pairs)

/-- Writing what some pairs leave is writing the pairs. -/
theorem insertAll_ofPairs {entries : Entries α} (h : (keys entries).Nodup)
    (pairs : List (String × α)) :
    insertAll entries (ofPairs pairs) = insertAll entries pairs := by
  refine ext_get? (nodup_keys_insertAll _ h) ?_ ?_
  · rw [keys_insertAll, keys_insertAll, ← keys_ofPairs, ← keys_ofPairs, ofPairs_ofPairs]
  · intro key
    rw [get?_insertAll, get?_insertAll, ← get?_ofPairs, ← get?_ofPairs, ofPairs_ofPairs]

theorem get?_erase (key k : String) (entries : Entries α) :
    get? k (erase key entries) = if k = key then none else get? k entries := by
  induction entries with
  | nil => simp [erase, get?]
  | cons entry rest ih =>
      rw [erase] at ih ⊢
      by_cases hk : entry.1 = key
      · rw [List.filter_cons_of_neg (by simp [hk]), ih, get?, hk]
        by_cases h : k = key
        · simp [h]
        · simp [h, Ne.symm h]
      · rw [List.filter_cons_of_pos (by simp [hk]), get?, get?, ih]
        by_cases h : entry.1 = k
        · have hne : k ≠ key := h ▸ hk
          simp [h, hne]
        · simp [h]

/-- Replaces every value by its image. -/
def mapValues (f : α → β) (pairs : List (String × α)) : List (String × β) :=
  pairs.map fun pair => (pair.1, f pair.2)

@[simp] theorem keys_mapValues (f : α → β) (pairs : List (String × α)) :
    keys (mapValues f pairs) = keys pairs := by
  simp [keys, mapValues]

theorem insert_mapValues (f : α → β) (key : String) (value : α) (entries : Entries α) :
    insert key (f value) (mapValues f entries) = mapValues f (insert key value entries) := by
  induction entries with
  | nil => rfl
  | cons entry rest ih =>
      by_cases h : entry.1 = key
      · simp [mapValues, insert, h]
      · simpa [mapValues, insert, h] using ih

theorem insertAll_mapValues (f : α → β) (entries : Entries α) (pairs : List (String × α)) :
    insertAll (mapValues f entries) (mapValues f pairs) =
      mapValues f (insertAll entries pairs) := by
  induction pairs generalizing entries with
  | nil => rfl
  | cons pair rest ih =>
      calc
        insertAll (insert pair.1 (f pair.2) (mapValues f entries)) (mapValues f rest) =
            insertAll (mapValues f (insert pair.1 pair.2 entries)) (mapValues f rest) := by
          rw [insert_mapValues]
        _ = mapValues f (insertAll (insert pair.1 pair.2 entries) rest) := ih _

theorem ofPairs_mapValues (f : α → β) (pairs : List (String × α)) :
    ofPairs (mapValues f pairs) = mapValues f (ofPairs pairs) :=
  insertAll_mapValues f [] pairs

end Entries
end Pluck
