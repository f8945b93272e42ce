import Pluck.Proofs.Nesting
import Pluck.Proofs.RoundTrip

/-!
How deep selectors nest when they are rendered.

A level of a selector is one level of the rendered value, or two where a nested item puts an object
around the selectors under its keys. A nested item without pairs has an object too, but no level of
its own in the selector, so each level is doubled at most (`Selector.nesting_toJson_le`). No level
is lost unless a key is repeated (`Selector.depth_le_nesting_toJson`). All numbers of levels between
these bounds occur (`Selector.exists_nesting_toJson_eq`).
-/

namespace Pluck

theorem Field.nesting_toJson (field : Field) : field.toJson.nesting = 0 := by
  cases field <;> rfl

theorem Selector.nesting_toJson_eachItem (inner : Selector) :
    (Selector.eachItem inner).toJson.nesting = inner.toJson.nesting + 1 := by
  simp only [toJson, Json.nesting, Json.nestingElements, Nat.max_zero, Nat.add_comm]

/-! ## From above -/

/-- An item stays below twice the levels of the list that holds it, if the selectors in it are
within the bound. -/
theorem Item.nesting_toJson_lt {items : List Item} {item : Item} (hitem : item ∈ items)
    (ih : ∀ pairs, item = .nested pairs → ∀ pair ∈ pairs,
      pair.2.toJson.nesting ≤ 2 * pair.2.depth) :
    item.toJson.nesting < 2 * (Selector.fields items).depth := by
  have hpos := (Selector.fields items).depth_pos
  cases item with
  | field field =>
      rw [Item.toJson, field.nesting_toJson]
      omega
  | nested pairs =>
      have hobject :
          (Item.nested pairs).toJson.nesting ≤ 2 * (Selector.fields items).depth - 1 := by
        rw [Item.toJson, Item.pairsToJson_eq_mapValues]
        refine Json.nesting_object_le (by omega) fun entry hentry => ?_
        obtain ⟨pair, hpair, rfl⟩ := List.mem_map.1 (Entries.mem_of_mem_ofPairs hentry)
        have hbelow := ih pairs rfl pair hpair
        have hdepth := Selector.depth_lt_of_nested hitem hpair
        dsimp only
        omega
      omega

theorem Selector.nesting_toJson_le (selector : Selector) :
    selector.toJson.nesting ≤ 2 * selector.depth := by
  induction selector using Selector.induction with
  | fields items ih =>
      have hpos := (Selector.fields items).depth_pos
      rw [Selector.toJson, Item.listToJson_eq_map]
      refine Json.nesting_array_le (by omega) fun x hx => ?_
      obtain ⟨item, hitem, rfl⟩ := List.mem_map.1 hx
      exact Item.nesting_toJson_lt hitem fun pairs e => ih pairs (e ▸ hitem)
  | eachItem inner ih =>
      rw [nesting_toJson_eachItem, depth_eachItem]
      omega

/-! ## From below -/

/-- Where no key is repeated, the selector of each pair is in the rendered item. -/
theorem Item.nesting_toJson_of_nodup {pairs : List (String × Selector)}
    (h : (Entries.keys pairs).Nodup) {pair : String × Selector} (hpair : pair ∈ pairs) :
    pair.2.toJson.nesting < (Item.nested pairs).toJson.nesting := by
  have hkeys : (Entries.keys (Entries.mapValues Selector.toJson pairs)).Nodup := by
    rwa [Entries.keys_mapValues]
  have hentry : (pair.1, pair.2.toJson) ∈ Entries.mapValues Selector.toJson pairs :=
    List.mem_map_of_mem hpair
  rw [Item.toJson, Item.pairsToJson_eq_mapValues, Entries.ofPairs_eq_self hkeys]
  exact Json.nesting_lt_of_mem_object hentry

theorem Item.depth_le_nesting_toJson {item : Item}
    (h : ∀ pairs, item = .nested pairs → (Entries.keys pairs).Nodup ∧
      ∀ pair ∈ pairs, pair.2.depth ≤ pair.2.toJson.nesting) :
    item.depth ≤ item.toJson.nesting := by
  cases item with
  | field field => exact Nat.zero_le _
  | nested pairs =>
      obtain ⟨hnodup, hbelow⟩ := h pairs rfl
      refine Item.pairsDepth_le_iff.2 fun pair hpair => ?_
      have hobject := Item.nesting_toJson_of_nodup hnodup hpair
      have hpairDepth := hbelow pair hpair
      omega

theorem Selector.depth_le_nesting_toJson {selector : Selector} (h : selector.KeysOnce) :
    selector.depth ≤ selector.toJson.nesting := by
  induction selector using Selector.induction with
  | fields items ih =>
      have hkeys := (Selector.keysOnce_fields_iff items).1 h
      have hlevels : Item.listDepth items ≤ (Selector.fields items).toJson.nesting - 1 := by
        refine Item.listDepth_le_iff.2 fun item hitem => ?_
        have hdepth : item.depth ≤ item.toJson.nesting := by
          refine Item.depth_le_nesting_toJson ?_
          rintro pairs rfl
          obtain ⟨hnodup, hbelow⟩ := hkeys pairs hitem
          exact ⟨hnodup, fun pair hpair => ih pairs hitem pair hpair (hbelow pair hpair)⟩
        have harray : item.toJson.nesting < (Selector.fields items).toJson.nesting := by
          rw [Selector.toJson, Item.listToJson_eq_map]
          exact Json.nesting_lt_of_mem_array (List.mem_map_of_mem hitem)
        omega
      have hpos : 0 < (Selector.fields items).toJson.nesting := by
        rw [Selector.toJson, Json.nesting]
        omega
      rw [Selector.depth]
      omega
  | eachItem inner ih =>
      have hinner := ih ((Selector.keysOnce_eachItem_iff inner).1 h)
      rw [nesting_toJson_eachItem, depth_eachItem]
      omega

/-- Of two pairs with one key only the last is rendered, so levels of the other are lost. -/
example :
    let selector := Selector.fields
      [.nested [("a", .eachItem (.eachItem (.fields []))), ("a", .fields [])]]
    selector.depth = 4 ∧ selector.toJson.nesting = 3 := by
  exact ⟨rfl, rfl⟩

/-! ## Both bounds -/

/-- **Levels.** A selector that was read has at most as many levels as the value it is rendered as,
and this one has at most twice as many. -/
theorem Selector.nesting_toJson_bounds {pointer : Json} {selector : Selector}
    (hwell : pointer.WellFormed) (h : Selector.ofJson pointer = .ok selector) :
    (selector.depth ≤ selector.toJson.nesting ∧ selector.toJson.nesting ≤ 2 * selector.depth) ∧
      (selector.depth ≤ 63 → selector.toJson.nesting ≤ 126) := by
  obtain ⟨-, hkeys⟩ := toJson_of_ofJson hwell h
  have hlow := depth_le_nesting_toJson hkeys
  have hhigh := selector.nesting_toJson_le
  exact ⟨⟨hlow, hhigh⟩, fun hdepth => by omega⟩

/-- Two arrays around a field, an object with an empty object inside and one with more arrays. -/
def layeredPointer : Json :=
  .array [.array [.string "a",
    .object [("b", .array [.object []]), ("c", .array [.array [.array []]])]]]

def layeredSelector : Selector :=
  .eachItem (.fields [.field (.name "a"),
    .nested [("b", .fields [.nested []]), ("c", .eachItem (.eachItem (.fields [])))]])

theorem Selector.nesting_toJson_bounds_layered :
    layeredPointer.WellFormed ∧ Selector.ofJson layeredPointer = .ok layeredSelector ∧
      (layeredSelector.depth ≤ layeredSelector.toJson.nesting ∧
        layeredSelector.toJson.nesting ≤ 2 * layeredSelector.depth) ∧
      layeredSelector.toJson.nesting ≤ 126 := by
  have hwell : layeredPointer.WellFormed := by
    simp [layeredPointer, Json.WellFormed, Json.WellFormedElements, Json.WellFormedEntries,
      Entries.keys]
  have hread : Selector.ofJson layeredPointer = .ok layeredSelector := by
    rfl
  obtain ⟨hbounds, hrendered⟩ := Selector.nesting_toJson_bounds hwell hread
  exact ⟨hwell, hread, hbounds, hrendered (by decide)⟩

/-- Neither bound can be improved: for each depth all numbers of levels between them occur. -/
theorem Selector.exists_nesting_toJson_eq (depth : Nat) {levels : Nat} (hlow : depth + 1 ≤ levels)
    (hhigh : levels ≤ 2 * (depth + 1)) :
    ∃ selector : Selector, selector.KeysOnce ∧ selector.depth = depth + 1 ∧
      selector.toJson.nesting = levels := by
  induction depth generalizing levels with
  | zero =>
      obtain rfl | rfl : levels = 1 ∨ levels = 2 := by omega
      · exact ⟨.fields [], (keysOnce_fields_iff _).2 (by simp), rfl, rfl⟩
      · exact ⟨.fields [.nested []], (keysOnce_fields_iff _).2 (by simp [Entries.keys]), rfl, rfl⟩
  | succ depth ih =>
      by_cases hdouble : levels = 2 * (depth + 2)
      · -- all levels so far are doubled, and so is a new one that is made by a nested item
        obtain ⟨inner, hkeys, hdepth, hlevels⟩ := ih (by omega) (Nat.le_refl _)
        refine ⟨.fields [.nested [("", inner)]], ?_, ?_, ?_⟩
        · rw [keysOnce_fields_iff]
          rintro pairs hpairs
          obtain rfl : pairs = [("", inner)] := by simpa using hpairs
          exact ⟨by simp [Entries.keys], by simpa using hkeys⟩
        · have hnested : (fields [.nested [("", inner)]]).depth = 1 + inner.depth := by
            simp [Selector.depth, Item.depth, Item.listDepth, Item.pairsDepth]
          omega
        · have hnested : (fields [.nested [("", inner)]]).toJson.nesting =
              1 + (1 + inner.toJson.nesting) := by
            simp [toJson, Item.toJson, Item.listToJson, Item.pairsToJson, Entries.ofPairs,
              Entries.insertAll, Entries.insert, Json.nesting, Json.nestingElements,
              Json.nestingEntries]
          omega
      · have hrest : depth + 1 ≤ levels - 1 := by omega
        obtain ⟨inner, hkeys, hdepth, hlevels⟩ := ih hrest (by omega)
        refine ⟨.eachItem inner, (keysOnce_eachItem_iff inner).2 hkeys, ?_, ?_⟩
        · rw [depth_eachItem, hdepth]
        · rw [nesting_toJson_eachItem]
          omega

end Pluck
