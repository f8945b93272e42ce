import Pluck.Proofs.Reading

/-!
Reading and rendering selectors are inverse to each other.

* `toJson_of_ofJson`: what was read is rendered as it stood, number by number and key by key;
* `ofJson_toJson`: what was rendered is read as the same selector with every nested item's pairs
  written in order (`Selector.merged`);
* `Selector.merged_eq_self_iff`: that changes nothing exactly when no nested item repeats a key.
-/

namespace Pluck

/-- No nested item, at whatever depth, has two pairs of one key. -/
def Selector.KeysOnce : Selector → Prop :=
  Selector.Everywhere fun item => ∀ pairs, item = .nested pairs → (Entries.keys pairs).Nodup

theorem Selector.keysOnce_fields_iff (items : List Item) :
    (Selector.fields items).KeysOnce ↔ ∀ pairs, .nested pairs ∈ items →
      (Entries.keys pairs).Nodup ∧ ∀ pair ∈ pairs, pair.2.KeysOnce := by
  rw [KeysOnce, Selector.everywhere_fields_iff]
  constructor
  · rintro ⟨here, below⟩ pairs hitem
    exact ⟨here _ hitem pairs rfl, below pairs hitem⟩
  · intro h
    refine ⟨?_, fun pairs hitem => (h pairs hitem).2⟩
    rintro item hitem pairs rfl
    exact (h pairs hitem).1

theorem Selector.keysOnce_eachItem_iff (inner : Selector) :
    (Selector.eachItem inner).KeysOnce ↔ inner.KeysOnce :=
  Selector.everywhere_eachItem_iff _ inner

/-! ## Rendering what was read -/

/-- An item is rendered as it stood, given that of the values under the keys of an object. -/
theorem Item.toJson_of_ofJson {x : Json} {item : Item} (hx : x.WellFormed)
    (ih : ∀ entries, x = .object entries → ∀ entry ∈ entries, ∀ selector,
      Selector.ofJson entry.2 = .ok selector → selector.toJson = entry.2 ∧ selector.KeysOnce)
    (h : Item.ofJson x = .ok item) :
    item.toJson = x ∧ ∀ pairs, item = .nested pairs →
      (Entries.keys pairs).Nodup ∧ ∀ pair ∈ pairs, pair.2.KeysOnce := by
  cases x with
  | null => simp [Item.ofJson] at h
  | bool b => simp [Item.ofJson] at h
  | array elements => simp [Item.ofJson] at h
  | number n =>
      obtain rfl : Item.field (.index n) = item := by simpa [Item.ofJson] using h
      exact ⟨rfl, by simp⟩
  | string s =>
      obtain rfl : Item.field (.name s) = item := by simpa [Item.ofJson] using h
      exact ⟨rfl, by simp⟩
  | object entries =>
      obtain ⟨hnodup, -⟩ := (Json.wellFormed_object_iff entries).1 hx
      obtain ⟨pairs, hpairs, rfl⟩ := Item.ofJson_object_eq_ok_iff.1 h
      have hvalues : Entries.mapValues Selector.toJson pairs = entries := by
        refine map_eq_of_mapM_eq_ok hpairs fun entry hentry pair hpair => ?_
        obtain ⟨hkey, hread⟩ := Item.entryOfJson_eq_ok_iff.1 hpair
        exact Prod.ext hkey (ih entries rfl entry hentry pair.2 hread).1
      constructor
      · rw [Item.toJson, Item.pairsToJson_eq_mapValues, hvalues, Entries.ofPairs_eq_self hnodup]
      · rintro _ ⟨⟩
        constructor
        · rw [← Entries.keys_mapValues Selector.toJson pairs, hvalues]
          exact hnodup
        · intro pair hpair
          obtain ⟨entry, hentry, he⟩ := exists_of_mem_mapM hpairs hpair
          obtain ⟨-, hread⟩ := Item.entryOfJson_eq_ok_iff.1 he
          exact (ih entries rfl entry hentry pair.2 hread).2

/-- What was read from a value is rendered as that value, and repeats no key. -/
theorem toJson_of_ofJson {v : Json} {selector : Selector} (hv : v.WellFormed)
    (h : Selector.ofJson v = .ok selector) : selector.toJson = v ∧ selector.KeysOnce := by
  induction v using Selector.ofJson_induction generalizing selector with
  | scalar v hscalar =>
      rw [Selector.ofJson_of_not_isArray hscalar] at h
      cases h
  | single elements ih =>
      obtain ⟨inner, hread, rfl⟩ := Selector.ofJson_single_eq_ok_iff.1 h
      have hinner := (Json.wellFormed_array_iff _).1 hv _ List.mem_cons_self
      obtain ⟨hjson, hkeys⟩ := ih hinner hread
      exact ⟨by rw [Selector.toJson, hjson], (Selector.keysOnce_eachItem_iff inner).2 hkeys⟩
  | list xs hxs ih =>
      obtain ⟨-, items, hitems, rfl⟩ := (Selector.ofJson_list_eq_ok_iff hxs).1 h
      have hwell := (Json.wellFormed_array_iff xs).1 hv
      have hitem : ∀ x ∈ xs, ∀ item, Item.ofJson x = .ok item →
          item.toJson = x ∧ ∀ pairs, item = .nested pairs →
            (Entries.keys pairs).Nodup ∧ ∀ pair ∈ pairs, pair.2.KeysOnce := by
        intro x hx item hread
        refine Item.toJson_of_ofJson (hwell x hx) ?_ hread
        rintro entries rfl entry hentry inner hinner
        have hbelow := ((Json.wellFormed_object_iff entries).1 (hwell _ hx)).2
        exact ih entries hx entry hentry (hbelow entry hentry) hinner
      constructor
      · rw [Selector.toJson, Item.listToJson_eq_map]
        exact congrArg Json.array
          (map_eq_of_mapM_eq_ok hitems fun x hx item hread => (hitem x hx item hread).1)
      · rw [Selector.keysOnce_fields_iff]
        intro pairs hpairs
        obtain ⟨x, hx, hread⟩ := exists_of_mem_mapM hitems hpairs
        exact (hitem x hx _ hread).2 pairs rfl

/-! ## Reading what was rendered -/

mutual

/-- The selector whose nested items have their pairs written in order: of those with one key the
first gives the place and the last the selector. -/
def Selector.merged : Selector → Selector
  | .fields items => .fields (Item.listMerged items)
  | .eachItem inner => .eachItem inner.merged

def Item.merged : Item → Item
  | .field field => .field field
  | .nested pairs => .nested (Entries.ofPairs (Item.pairsMerged pairs))

def Item.listMerged : List Item → List Item
  | [] => []
  | item :: rest => item.merged :: Item.listMerged rest

def Item.pairsMerged : List (String × Selector) → List (String × Selector)
  | [] => []
  | (key, selector) :: rest => (key, selector.merged) :: Item.pairsMerged rest

end

theorem Item.listMerged_eq_map (items : List Item) :
    Item.listMerged items = items.map Item.merged := by
  induction items with
  | nil => rfl
  | cons item rest ih => simp [Item.listMerged, ih]

theorem Item.pairsMerged_eq_mapValues (pairs : List (String × Selector)) :
    Item.pairsMerged pairs = Entries.mapValues Selector.merged pairs := by
  induction pairs with
  | nil => rfl
  | cons pair rest ih => simp [Item.pairsMerged, Entries.mapValues, ih]

theorem Item.isArray_toJson (item : Item) : item.toJson.isArray = false := by
  cases item with
  | field field => cases field <;> rfl
  | nested pairs => rfl

theorem Selector.exists_toJson_eq_array (selector : Selector) :
    ∃ elements, selector.toJson = .array elements := by
  cases selector with
  | fields items => exact ⟨_, rfl⟩
  | eachItem inner => exact ⟨_, rfl⟩

theorem Item.ofJson_toJson {item : Item}
    (ih : ∀ pairs, item = .nested pairs → ∀ pair ∈ pairs,
      Selector.ofJson pair.2.toJson = .ok pair.2.merged) :
    Item.ofJson item.toJson = .ok item.merged := by
  cases item with
  | field field => cases field <;> rfl
  | nested pairs =>
      rw [Item.toJson, Item.pairsToJson_eq_mapValues, Entries.ofPairs_mapValues, Item.merged,
        Item.pairsMerged_eq_mapValues, Entries.ofPairs_mapValues]
      refine Item.ofJson_object_eq_ok_iff.2 ⟨_, mapM_map_eq_ok fun pair hpair => ?_, rfl⟩
      have hread := ih pairs rfl pair (Entries.mem_of_mem_ofPairs hpair)
      exact Item.entryOfJson_eq_ok_iff.2 ⟨rfl, hread⟩

/-- What was rendered is read again, with every nested item's pairs written in order. -/
theorem ofJson_toJson (selector : Selector) :
    Selector.ofJson selector.toJson = .ok selector.merged := by
  induction selector using Selector.induction with
  | fields items ih =>
      have hitem : ∀ item ∈ items, Item.ofJson item.toJson = .ok item.merged := by
        rintro item hi
        exact Item.ofJson_toJson fun pairs e => ih pairs (e ▸ hi)
      have hany : (items.map Item.toJson).any Json.isArray = false := by
        simp [Item.isArray_toJson]
      have hlist : ∀ elements, items.map Item.toJson ≠ [.array elements] := by
        intro elements e
        simp [e, Json.isArray] at hany
      rw [Selector.toJson, Item.listToJson_eq_map, Selector.merged, Item.listMerged_eq_map]
      exact (Selector.ofJson_list_eq_ok_iff hlist).2 ⟨hany, _, mapM_map_eq_ok hitem, rfl⟩
  | eachItem inner ih =>
      obtain ⟨elements, he⟩ := inner.exists_toJson_eq_array
      rw [he] at ih
      rw [Selector.toJson, he, Selector.merged]
      exact Selector.ofJson_single_eq_ok_iff.2 ⟨inner.merged, ih, rfl⟩

theorem Item.merged_eq_self_iff {item : Item}
    (ih : ∀ pairs, item = .nested pairs → ∀ pair ∈ pairs,
      (pair.2.merged = pair.2 ↔ pair.2.KeysOnce)) :
    item.merged = item ↔ ∀ pairs, item = .nested pairs →
      (Entries.keys pairs).Nodup ∧ ∀ pair ∈ pairs, pair.2.KeysOnce := by
  cases item with
  | field field => simp [Item.merged]
  | nested pairs =>
      have hmap : Entries.mapValues Selector.merged pairs = pairs ↔
          ∀ pair ∈ pairs, pair.2.KeysOnce := by
        refine map_eq_self_iff.trans (forall₂_congr fun pair hpair => ?_)
        rw [← ih pairs rfl pair hpair, Prod.ext_iff]
        simp
      rw [Item.merged, Item.pairsMerged_eq_mapValues]
      constructor
      · rintro h _ ⟨⟩
        have hw : Entries.ofPairs (Entries.mapValues Selector.merged pairs) = pairs := by
          simpa using h
        have hn : (Entries.keys pairs).Nodup := by
          rw [← hw]
          exact Entries.nodup_keys_ofPairs _
        refine ⟨hn, hmap.1 ?_⟩
        rwa [Entries.ofPairs_eq_self (by simpa using hn)] at hw
      · intro h
        obtain ⟨hn, hbelow⟩ := h pairs rfl
        rw [hmap.2 hbelow, Entries.ofPairs_eq_self hn]

/-- Writing the pairs in order changes nothing exactly when no key is repeated. -/
theorem Selector.merged_eq_self_iff (selector : Selector) :
    selector.merged = selector ↔ selector.KeysOnce := by
  induction selector using Selector.induction with
  | fields items ih =>
      have hitem : ∀ item ∈ items, (item.merged = item ↔ ∀ pairs, item = .nested pairs →
          (Entries.keys pairs).Nodup ∧ ∀ pair ∈ pairs, pair.2.KeysOnce) := by
        intro item hi
        exact Item.merged_eq_self_iff fun pairs e => ih pairs (e ▸ hi)
      rw [Selector.merged, Item.listMerged_eq_map, Selector.keysOnce_fields_iff,
        Selector.fields.injEq, map_eq_self_iff]
      constructor
      · intro h pairs hpairs
        exact (hitem _ hpairs).1 (h _ hpairs) pairs rfl
      · intro h item hi
        refine (hitem item hi).2 ?_
        rintro pairs rfl
        exact h pairs hi
  | eachItem inner ih =>
      rw [Selector.merged, Selector.keysOnce_eachItem_iff, ← ih]
      simp

/-! ## Equality of values -/

theorem Field.equal_self (field : Field) : field.equal field = true := by
  cases field with
  | name key => simp [Field.equal]
  | index n => exact Number.equal_iff.2 (Or.inl rfl)

theorem Item.listEqual_self {items : List Item} (h : ∀ item ∈ items, item.equal item = true) :
    Item.listEqual items items = true := by
  induction items with
  | nil => simp [Item.listEqual]
  | cons item rest ih =>
      have hrest := ih fun other ho => h other (List.mem_cons_of_mem _ ho)
      simp [Item.listEqual, h item List.mem_cons_self, hrest]

theorem Item.pairsEqual_self {pairs : List (String × Selector)}
    (h : ∀ pair ∈ pairs, pair.2.equal pair.2 = true) : Item.pairsEqual pairs pairs = true := by
  induction pairs with
  | nil => simp [Item.pairsEqual]
  | cons pair rest ih =>
      have hrest := ih fun other ho => h other (List.mem_cons_of_mem _ ho)
      have hpair := h pair List.mem_cons_self
      obtain ⟨key, selector⟩ := pair
      simp [Item.pairsEqual, hpair, hrest]

theorem Selector.equal_self (selector : Selector) : selector.equal selector = true := by
  induction selector using Selector.induction with
  | fields items ih =>
      rw [Selector.equal]
      refine Item.listEqual_self fun item hi => ?_
      cases item with
      | field field => rw [Item.equal, field.equal_self]
      | nested pairs => rw [Item.equal, Item.pairsEqual_self (ih pairs hi)]
  | eachItem inner ih => rwa [Selector.equal]

theorem Item.exists_of_listEqual {xs ys : List Item} (h : Item.listEqual xs ys = true) :
    ∀ y ∈ ys, ∃ x ∈ xs, x.equal y = true := by
  induction xs generalizing ys with
  | nil =>
      cases ys with
      | nil => simp
      | cons y ys => simp [Item.listEqual] at h
  | cons x xs ih =>
      cases ys with
      | nil => simp
      | cons y ys =>
          obtain ⟨hhead, htail⟩ : x.equal y = true ∧ Item.listEqual xs ys = true := by
            simpa [Item.listEqual] using h
          rintro z hz
          rcases List.mem_cons.1 hz with rfl | hm
          · exact ⟨x, List.mem_cons_self, hhead⟩
          · obtain ⟨w, hw, hwz⟩ := ih htail z hm
            exact ⟨w, List.mem_cons_of_mem _ hw, hwz⟩

theorem Item.keys_of_pairsEqual {ps qs : List (String × Selector)}
    (h : Item.pairsEqual ps qs = true) : Entries.keys ps = Entries.keys qs ∧
      ∀ q ∈ qs, ∃ p ∈ ps, p.2.equal q.2 = true := by
  induction ps generalizing qs with
  | nil =>
      cases qs with
      | nil => simp
      | cons q qs => simp [Item.pairsEqual] at h
  | cons p ps ih =>
      cases qs with
      | nil => simp [Item.pairsEqual] at h
      | cons q qs =>
          obtain ⟨⟨hkey, hhead⟩, htail⟩ :
              (p.1 = q.1 ∧ p.2.equal q.2 = true) ∧ Item.pairsEqual ps qs = true := by
            cases p
            cases q
            simpa [Item.pairsEqual] using h
          obtain ⟨hkeys, hvalues⟩ := ih htail
          constructor
          · simp only [Entries.keys, List.map_cons] at hkeys ⊢
            rw [hkey, hkeys]
          · rintro r hr
            rcases List.mem_cons.1 hr with rfl | hm
            · exact ⟨p, List.mem_cons_self, hhead⟩
            · obtain ⟨w, hw, hwr⟩ := hvalues r hm
              exact ⟨w, List.mem_cons_of_mem _ hw, hwr⟩

theorem Selector.keysOnce_of_equal {s t : Selector} (h : s.equal t = true) (hs : s.KeysOnce) :
    t.KeysOnce := by
  induction s using Selector.induction generalizing t with
  | fields items ih =>
      cases t with
      | eachItem inner => simp [Selector.equal] at h
      | fields items' =>
          rw [Selector.equal] at h
          rw [Selector.keysOnce_fields_iff] at hs ⊢
          intro pairs' hpairs'
          obtain ⟨item, hi, heq⟩ := Item.exists_of_listEqual h _ hpairs'
          cases item with
          | field field => simp [Item.equal] at heq
          | nested pairs =>
              rw [Item.equal] at heq
              obtain ⟨hn, hbelow⟩ := hs pairs hi
              obtain ⟨hkeys, hvalues⟩ := Item.keys_of_pairsEqual heq
              refine ⟨hkeys ▸ hn, fun q hq => ?_⟩
              obtain ⟨p, hp, hpq⟩ := hvalues q hq
              exact ih pairs hi p hp hpq (hbelow p hp)
  | eachItem inner ih =>
      cases t with
      | fields items => simp [Selector.equal] at h
      | eachItem inner' =>
          rw [Selector.equal] at h
          rw [Selector.keysOnce_eachItem_iff] at hs ⊢
          exact ih h hs

theorem Selector.keysOnce_merged (selector : Selector) : selector.merged.KeysOnce := by
  induction selector using Selector.induction with
  | fields items ih =>
      rw [Selector.merged, Item.listMerged_eq_map, Selector.keysOnce_fields_iff]
      intro pairs hpairs
      obtain ⟨item, hi, he⟩ := List.mem_map.1 hpairs
      cases item with
      | field field => simp [Item.merged] at he
      | nested pairs' =>
          obtain rfl : Entries.ofPairs (Entries.mapValues Selector.merged pairs') = pairs := by
            simpa [Item.merged, Item.pairsMerged_eq_mapValues] using he
          refine ⟨Entries.nodup_keys_ofPairs _, fun pair hpair => ?_⟩
          obtain ⟨pair', hp, rfl⟩ := List.mem_map.1 (Entries.mem_of_mem_ofPairs hpair)
          exact ih pairs' hi pair' hp
  | eachItem inner ih => exact (Selector.keysOnce_eachItem_iff _).2 ih

theorem Selector.merged_equal_iff (selector : Selector) :
    selector.merged.equal selector = true ↔ selector.KeysOnce := by
  constructor
  · intro h
    exact Selector.keysOnce_of_equal h selector.keysOnce_merged
  · intro h
    rw [selector.merged_eq_self_iff.2 h]
    exact selector.equal_self

/-- **Round trip.** Rendering gives back the value that was read, in which no object has a key
twice. What was rendered is always read again, as the same selector or as an equal one exactly when
no nested item repeats a key. -/
theorem ofJson_toJson_inverse :
    (∀ v selector, v.WellFormed → Selector.ofJson v = .ok selector →
      selector.toJson = v ∧ selector.KeysOnce) ∧
    ∀ selector : Selector, ∃ again, Selector.ofJson selector.toJson = .ok again ∧
      (again = selector ↔ selector.KeysOnce) ∧
      (again.equal selector = true ↔ selector.KeysOnce) := by
  constructor
  · intro v selector hv h
    exact toJson_of_ofJson hv h
  · intro selector
    exact ⟨selector.merged, ofJson_toJson selector, selector.merged_eq_self_iff,
      selector.merged_equal_iff⟩

/-- A list whose object holds an array around an array, an empty list and a number. -/
def nestedPointer : Json :=
  .array [.string "a",
    .object [("b", .array [.array []]),
      ("a", .array [.number (.whole ⟨-1, by decide, by decide⟩)])]]

def nestedSelector : Selector :=
  .fields [.field (.name "a"),
    .nested [("b", .eachItem (.fields [])),
      ("a", .fields [.field (.index (.whole ⟨-1, by decide, by decide⟩))])]]

theorem ofJson_toJson_inverse_nested :
    nestedPointer.WellFormed ∧ Selector.ofJson nestedPointer = .ok nestedSelector ∧
      nestedSelector.toJson = nestedPointer ∧ nestedSelector.KeysOnce := by
  have hv : nestedPointer.WellFormed := by
    simp [nestedPointer, Json.WellFormed, Json.WellFormedElements, Json.WellFormedEntries,
      Entries.keys]
  have hread : Selector.ofJson nestedPointer = .ok nestedSelector := by
    rfl
  exact ⟨hv, hread, ofJson_toJson_inverse.1 nestedPointer nestedSelector hv hread⟩

end Pluck
