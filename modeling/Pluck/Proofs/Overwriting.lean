import Mathlib.Data.List.Induction
import Mathlib.Data.List.Perm.Basic
import Pluck.Proofs.Walks

/-!
What the items of a selector write, and what stays of it.

An item writes one value under one key, or nothing. A key is in the result if some item writes it;
the last such item gives the value and the first one the place. These properties (`Gathers`) leave
no choice (`Gathers.unique`), and `extract_fields_gathers` says that extraction has them. So a list
of items may be cut in two: what the second part writes is written into what the first part left.
-/

namespace Pluck

/-- The item adds a value under `key`. -/
def Item.Writes (input : Json) (key : String) (item : Item) : Prop :=
  (item.contribution input).map Prod.fst = some key

instance (input : Json) (key : String) : DecidablePred (Item.Writes input key) :=
  fun _ => inferInstanceAs (Decidable (_ = _))

theorem Item.writes_iff {input : Json} {key : String} {item : Item} :
    item.Writes input key ↔ ∃ value, item.contribution input = some (key, value) := by
  simp [Writes]

/-- The place of the first item that writes `key`. -/
def firstWriter (items : List Item) (input : Json) (key : String) : Nat :=
  items.findIdx fun item => item.Writes input key

/-- The entries hold what the items write: each key once, in the order of the first items that write
the keys, and with the values of the last ones. -/
structure Gathers (items : List Item) (input : Json) (entries : Entries Json) : Prop where
  once : (Entries.keys entries).Nodup
  written : ∀ key, key ∈ Entries.keys entries ↔ ∃ item ∈ items, item.Writes input key
  last : ∀ key value, Entries.get? key entries = some value ↔
    ∃ before item after, items = before ++ item :: after ∧
      item.contribution input = some (key, value) ∧ ∀ later ∈ after, ¬ later.Writes input key
  order : (Entries.keys entries).Pairwise fun k l =>
    firstWriter items input k < firstWriter items input l

theorem Gathers.unique {items : List Item} {input : Json} {xs ys : Entries Json}
    (hx : Gathers items input xs) (hy : Gathers items input ys) : xs = ys := by
  have hsame : (Entries.keys xs).Perm (Entries.keys ys) := by
    rw [List.perm_ext_iff_of_nodup hx.once hy.once]
    intro key
    rw [hx.written, hy.written]
  have hkeys : Entries.keys xs = Entries.keys ys := by
    refine List.Perm.eq_of_pairwise ?_ hx.order hy.order hsame
    intro k l _ _ hkl hlk
    omega
  refine Entries.ext_get? hx.once hkeys fun key => Option.ext fun value => ?_
  rw [hx.last, hy.last]

/-! ## The order of first occurrences -/

/-- Without repetitions the images stand in the order of the first elements that have them. -/
theorem pairwise_findIdx_eraseDups {α β : Type} [DecidableEq β] (f : α → Option β) (xs : List α) :
    (xs.filterMap f).eraseDups.Pairwise fun a b =>
      xs.findIdx (fun x => f x = some a) < xs.findIdx (fun x => f x = some b) := by
  induction xs using List.reverseRecOn with
  | nil => simp
  | append_singleton xs x ih =>
      -- what is an image of `xs` is found there also when `x` follows
      have hold : ∀ a ∈ (xs.filterMap f).eraseDups,
          xs.findIdx (fun x => f x = some a) < xs.length := by
        intro a ha
        obtain ⟨y, hy, hf⟩ := List.mem_filterMap.1 (List.mem_eraseDups.1 ha)
        exact List.findIdx_lt_length_of_exists ⟨y, hy, by simpa using hf⟩
      have hkept : (xs.filterMap f).eraseDups.Pairwise fun a b =>
          (xs ++ [x]).findIdx (fun x => f x = some a) <
            (xs ++ [x]).findIdx (fun x => f x = some b) := by
        refine ih.imp_of_mem fun ha hb hab => ?_
        rwa [List.findIdx_append, List.findIdx_append, if_pos (hold _ ha), if_pos (hold _ hb)]
      cases hx : f x with
      | none => simpa [hx] using hkept
      | some b =>
          have himages : (xs ++ [x]).filterMap f = xs.filterMap f ++ [b] := by simp [hx]
          rw [himages, eraseDups_concat]
          split
          · exact hkept
          · next hnew =>
              refine List.pairwise_append.2 ⟨hkept, List.pairwise_singleton _ _, ?_⟩
              intro a ha c hc
              obtain rfl := List.mem_singleton.1 hc
              have hlate : ¬ xs.findIdx (fun x => f x = some c) < xs.length := by
                rw [List.findIdx_lt_length]
                rintro ⟨y, hy, hf⟩
                exact hnew (List.mem_filterMap.2 ⟨y, hy, by simpa using hf⟩)
              rw [List.findIdx_append, List.findIdx_append, if_pos (hold a ha), if_neg hlate]
              exact Nat.lt_add_left _ (hold a ha)

/-! ## What the items write -/

theorem Item.contributions_append (front back : List Item) (input : Json) :
    Item.contributions (front ++ back) input =
      Item.contributions front input ++ Item.contributions back input := by
  simp only [Item.contributions_eq_filterMap, List.filterMap_append]

theorem Item.keys_contributions (items : List Item) (input : Json) :
    Entries.keys (Item.contributions items input) =
      items.filterMap fun item => (item.contribution input).map Prod.fst := by
  rw [Item.contributions_eq_filterMap, Entries.keys, List.map_filterMap]

theorem Item.get?_contributions_eq_some_iff {items : List Item} {input : Json} {key : String}
    {value : Json} :
    Entries.get? key (Item.contributions items input) = some value ↔
      ∃ item, items.find? (fun item => item.Writes input key) = some item ∧
        item.contribution input = some (key, value) := by
  induction items with
  | nil => simp [Item.contributions, Entries.get?]
  | cons item rest ih =>
      by_cases h : item.Writes input key
      · obtain ⟨written, hc⟩ := Item.writes_iff.1 h
        simp [Item.contributions, hc, Entries.get?, h]
      · rw [List.find?_cons_of_neg (by simpa using h), ← ih]
        cases hc : item.contribution input with
        | none => simp [Item.contributions, hc]
        | some pair =>
            have hk : pair.1 ≠ key := by
              rintro rfl
              exact h (by simp [Item.Writes, hc])
            simp [Item.contributions, hc, Entries.get?, hk]

/-- Read from the end, the value of a key is that of the last item that writes it. -/
theorem Item.get?_reverse_contributions_eq_some_iff {items : List Item} {input : Json}
    {key : String} {value : Json} :
    Entries.get? key (Item.contributions items input).reverse = some value ↔
      ∃ before item after, items = before ++ item :: after ∧
        item.contribution input = some (key, value) ∧
        ∀ later ∈ after, ¬ later.Writes input key := by
  have hreverse : (Item.contributions items input).reverse =
      Item.contributions items.reverse input := by
    simp only [Item.contributions_eq_filterMap, List.filterMap_reverse]
  rw [hreverse, Item.get?_contributions_eq_some_iff]
  constructor
  · rintro ⟨item, hfind, hc⟩
    obtain ⟨-, after, before, hsplit, hafter⟩ := List.find?_eq_some_iff_append.1 hfind
    refine ⟨before.reverse, item, after.reverse, ?_, hc, by simpa using hafter⟩
    simpa using List.reverse_eq_append_iff.1 hsplit
  · rintro ⟨before, item, after, rfl, hc, hafter⟩
    have hwrites : item.Writes input key := Item.writes_iff.2 ⟨value, hc⟩
    refine ⟨item, List.find?_eq_some_iff_append.2 ⟨by simpa using hwrites, ?_⟩, hc⟩
    exact ⟨after.reverse, before.reverse, by simp, by simpa using hafter⟩

theorem gathers_ofPairs_contributions (items : List Item) (input : Json) :
    Gathers items input (Entries.ofPairs (Item.contributions items input)) where
  once := Entries.nodup_keys_ofPairs _
  written key := by
    rw [Entries.mem_keys_ofPairs, Item.keys_contributions, List.mem_filterMap]
    rfl
  last key value := by
    rw [Entries.get?_ofPairs, Item.get?_reverse_contributions_eq_some_iff]
  order := by
    rw [Entries.keys_ofPairs, Item.keys_contributions]
    exact pairwise_findIdx_eraseDups _ items

/-- **Overwriting.** Extraction by a list of items leaves what the items write, and nothing else has
these properties. Where the list is cut in two, the entries of the second part are written in order
into those of the first. -/
theorem extract_fields_gathers (input : Json) :
    (∀ items, ∃ entries, (Selector.fields items).extract input = .object entries ∧
      Gathers items input entries ∧ ∀ other, Gathers items input other → other = entries) ∧
    ∀ front back, ∃ first second,
      (Selector.fields front).extract input = .object first ∧
      (Selector.fields back).extract input = .object second ∧
      (Selector.fields (front ++ back)).extract input =
        .object (Entries.insertAll first second) := by
  constructor
  · intro items
    have h := gathers_ofPairs_contributions items input
    exact ⟨_, rfl, h, fun other hother => hother.unique h⟩
  · intro front back
    refine ⟨_, _, rfl, rfl, ?_⟩
    rw [Selector.extract, Item.contributions_append, Entries.ofPairs, Entries.insertAll_append,
      Entries.insertAll_ofPairs (Entries.nodup_keys_ofPairs _)]
    rfl

/-- The first and the last item write the same key. -/
def writtenTwice : List Item :=
  [.field (.name "b"), .field (.name "a"),
    .nested [("a", .fields []), ("b", .eachItem (.fields []))]]

theorem extract_fields_gathers_writtenTwice :
    Gathers writtenTwice (.object [("a", .bool true), ("b", .string "c")])
      [("b", .array []), ("a", .bool true)] := by
  obtain ⟨entries, hextract, hgathers, -⟩ :=
    (extract_fields_gathers (.object [("a", .bool true), ("b", .string "c")])).1 writtenTwice
  have hentries : entries = [("b", .array []), ("a", .bool true)] :=
    (Json.object.inj hextract).symm
  exact hentries ▸ hgathers

end Pluck
