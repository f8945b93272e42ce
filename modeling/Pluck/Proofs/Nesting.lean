import Pluck.Proofs.Provenance

/-!
How deep results nest.

A lookup steps into the input, so what it finds has fewer levels than the input, unless it has none
(`Json.HasPart.nesting_lt`). An item builds a level of its own only around such a part. So a result
never has more levels than both the input and the selector (`nesting_extract_le_max`): selectors
that go deeper than the input reach strings, whose characters are strings again.
-/

namespace Pluck

/-! ## Levels of a selector -/

theorem Item.listDepth_le_iff {items : List Item} {levels : Nat} :
    Item.listDepth items ≤ levels ↔ ∀ item ∈ items, item.depth ≤ levels := by
  induction items with
  | nil => simp [Item.listDepth]
  | cons item rest ih => simp only [Item.listDepth, List.forall_mem_cons, Nat.max_le, ih]

theorem Item.pairsDepth_le_iff {pairs : List (String × Selector)} {levels : Nat} :
    Item.pairsDepth pairs ≤ levels ↔ ∀ pair ∈ pairs, pair.2.depth ≤ levels := by
  induction pairs with
  | nil => simp [Item.pairsDepth]
  | cons pair rest ih => simp only [Item.pairsDepth, List.forall_mem_cons, Nat.max_le, ih]

/-- A nested selector has fewer levels than the one that holds it. -/
theorem Selector.depth_lt_of_nested {items : List Item} {pairs : List (String × Selector)}
    {pair : String × Selector} (hitem : .nested pairs ∈ items) (hpair : pair ∈ pairs) :
    pair.2.depth < (Selector.fields items).depth := by
  have hpairs : pair.2.depth ≤ Item.pairsDepth pairs :=
    Item.pairsDepth_le_iff.1 (Nat.le_refl _) pair hpair
  have hitems : (Item.nested pairs).depth ≤ Item.listDepth items :=
    Item.listDepth_le_iff.1 (Nat.le_refl _) _ hitem
  rw [Item.depth] at hitems
  rw [Selector.depth]
  omega

theorem Selector.depth_pos (selector : Selector) : 0 < selector.depth := by
  cases selector <;> rw [Selector.depth] <;> omega

theorem Selector.depth_eachItem (inner : Selector) :
    (Selector.eachItem inner).depth = inner.depth + 1 := by
  rw [depth, Nat.add_comm]

/-! ## Levels of what is found -/

namespace Json

theorem nesting_lt_of_mem_array {elements : List Json} {x : Json} (h : x ∈ elements) :
    x.nesting < (array elements).nesting := by
  have hlevels : (array elements).nesting = nestingElements elements + 1 := by
    rw [nesting, Nat.add_comm]
  have hx := (nesting_array_le_iff elements _).1 (Nat.le_of_eq hlevels) x h
  omega

theorem nesting_lt_of_mem_object {entries : Entries Json} {entry : String × Json}
    (h : entry ∈ entries) : entry.2.nesting < (object entries).nesting := by
  have hlevels : (object entries).nesting = nestingEntries entries + 1 := by
    rw [nesting, Nat.add_comm]
  have hentry := (nesting_object_le_iff entries _).1 (Nat.le_of_eq hlevels) entry h
  omega

theorem nesting_array_le {elements : List Json} {levels : Nat} (hpos : 0 < levels)
    (h : ∀ x ∈ elements, x.nesting < levels) : (array elements).nesting ≤ levels := by
  obtain ⟨levels, rfl⟩ := Nat.exists_eq_add_one.2 hpos
  exact (nesting_array_le_iff elements levels).2 fun x hx => Nat.le_of_lt_succ (h x hx)

theorem nesting_object_le {entries : Entries Json} {levels : Nat} (hpos : 0 < levels)
    (h : ∀ entry ∈ entries, entry.2.nesting < levels) : (object entries).nesting ≤ levels := by
  obtain ⟨levels, rfl⟩ := Nat.exists_eq_add_one.2 hpos
  exact (nesting_object_le_iff entries levels).2 fun entry he => Nat.le_of_lt_succ (h entry he)

/-- Each step into a value leaves a level behind, as long as there is one. -/
theorem HasPart.nesting_lt {input x : Json} (h : input.HasPart x) :
    x.nesting < input.nesting ∨ x.nesting = 0 := by
  cases h with
  | value hvalue => exact Or.inl (nesting_lt_of_mem_object (Entries.mem_of_get? hvalue))
  | element hmem => exact Or.inl (nesting_lt_of_mem_array hmem)
  | character | elementCount | characterCount => exact Or.inr rfl

end Json

/-! ## Levels of a result -/

/-- What an item adds has fewer levels than the input or the selector, if the results of nested
selectors are within their bound. -/
theorem Item.nesting_contribution_lt {items : List Item} {item : Item} (hitem : item ∈ items)
    {input : Json} (ih : ∀ pairs, item = .nested pairs → ∀ pair ∈ pairs, ∀ value,
      (pair.2.extract value).nesting ≤ max value.nesting pair.2.depth)
    {written : String × Json} (h : item.contribution input = some written) :
    written.2.nesting < max input.nesting (Selector.fields items).depth := by
  have hlevels := (Selector.fields items).depth_pos
  cases item with
  | field field =>
      obtain ⟨value, hvalue, -, rfl⟩ := Field.contribution_eq_some_iff.1 h
      have hpart := (Json.HasPart.of_resolve? hvalue).nesting_lt
      dsimp only
      omega
  | nested pairs =>
      obtain ⟨pair, hpair, value, hvalue, rfl⟩ := Item.exists_of_pairsContribution h
      have hpart :=
        (Json.HasPart.of_property? (Json.present?_eq_some_iff.1 hvalue).1).nesting_lt
      have hbelow := ih pairs rfl pair hpair value
      have hdepth := Selector.depth_lt_of_nested hitem hpair
      dsimp only
      omega

theorem nesting_extract_le_max (selector : Selector) (input : Json) :
    (selector.extract input).nesting ≤ max input.nesting selector.depth := by
  have hpos := selector.depth_pos
  induction selector using Selector.induction generalizing input with
  | fields items ih =>
      rw [Selector.extract]
      refine Json.nesting_object_le (by omega) fun entry hentry => ?_
      have hwritten := Entries.mem_of_mem_ofPairs hentry
      rw [Item.contributions_eq_filterMap] at hwritten
      obtain ⟨item, hitem, hc⟩ := List.mem_filterMap.1 hwritten
      refine Item.nesting_contribution_lt hitem ?_ hc
      rintro pairs rfl pair hpair value
      exact ih pairs hitem pair hpair value pair.2.depth_pos
  | eachItem inner ih =>
      have hdepth := inner.depth_eachItem
      cases input with
      | array elements =>
          rw [Selector.extract]
          refine Json.nesting_array_le (by omega) fun result hresult => ?_
          obtain ⟨x, hx, rfl⟩ := List.mem_map.1 hresult
          have hbelow := ih x inner.depth_pos
          have helement := Json.nesting_lt_of_mem_array hx
          omega
      | _ => exact Json.nesting_array_le (by omega) (List.forall_mem_nil _)

/-- **Nesting.** A result has at most as many levels as the input and the selector together. -/
theorem nesting_extract_le (selector : Selector) (input : Json) :
    (selector.extract input).nesting ≤ input.nesting + selector.depth := by
  have hmax := nesting_extract_le_max selector input
  omega

/-- In a string there is always a character to step into. -/
example :
    ((Selector.fields [.nested [("0", .fields [.nested [("0", .eachItem (.fields []))]])]]).extract
      (.string "a")).nesting = 3 := by
  decide +kernel

end Pluck
