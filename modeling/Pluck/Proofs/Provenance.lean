import Pluck.Proofs.Lookups

/-!
Where the values of a result come from.

A field takes a value that is one step away from the input (`Json.HasPart`). A nested item takes what
its selector makes of the value under one of its keys. `Justified` says this of a whole result,
level by level; every result of an extraction is justified (`justified_extract`). In particular a
result has the shape of its selector, and no value in it is made up.
-/

namespace Pluck

/-- The second value is one step away from the first: under a key, at a place, a character, or the
count of what the first one holds. -/
inductive Json.HasPart : Json → Json → Prop
  | value {entries : List (String × Json)} {key : String} {x : Json}
      (h : Entries.get? key entries = some x) : HasPart (.object entries) x
  | element {elements : List Json} {x : Json} (h : x ∈ elements) : HasPart (.array elements) x
  | character {text : String} {c : Char} (h : c ∈ text.toList) :
      HasPart (.string text) (.string (String.ofList [c]))
  | elementCount (elements : List Json) : HasPart (.array elements) (count elements.length)
  | characterCount (text : String) : HasPart (.string text) (count text.length)

mutual

/-- The selector accounts for all of the result by parts of the input: by those of its elements, one
result each in their order, or entry by entry. -/
inductive Justified : Selector → Json → Json → Prop
  | each {inner : Selector} {elements results : List Json}
      (hlength : results.length = elements.length)
      (h : ∀ i (he : i < elements.length) (hr : i < results.length),
        Justified inner elements[i] results[i]) :
      Justified (.eachItem inner) (.array elements) (.array results)
  | noArray {inner : Selector} {input : Json} (h : input.isArray = false) :
      Justified (.eachItem inner) input (.array [])
  | fields {items : List Item} {input : Json} {entries : List (String × Json)}
      (notNull : ∀ entry ∈ entries, entry.2 ≠ .null)
      (h : ∀ entry ∈ entries, JustifiedEntry items input entry) :
      Justified (.fields items) input (.object entries)

/-- An item of the list accounts for the entry. -/
inductive JustifiedEntry : List Item → Json → String × Json → Prop
  | field {items : List Item} {input : Json} {field : Field} {x : Json}
      (hitem : .field field ∈ items) (hx : input.HasPart x) :
      JustifiedEntry items input (field.key, x)
  | nested {items : List Item} {input : Json} {pairs : List (String × Selector)} {key : String}
      {selector : Selector} {y x : Json} (hitem : .nested pairs ∈ items)
      (hpair : (key, selector) ∈ pairs) (hy : input.property? key = some y)
      (htruthy : y.isTruthy = true) (hx : Justified selector y x) :
      JustifiedEntry items input (key, x)

end

/-! ## Lookups stay one step away -/

namespace Json

theorem HasPart.of_charAt? {text : String} {place : Nat} {x : Json}
    (h : charAt? text place = some x) : (string text).HasPart x := by
  obtain ⟨c, hc, rfl⟩ := Option.map_eq_some_iff.1 h
  exact HasPart.character (List.mem_of_getElem? hc)

theorem HasPart.of_property? {input x : Json} {key : String} (h : input.property? key = some x) :
    input.HasPart x := by
  cases input with
  | object entries => exact HasPart.value h
  | array elements =>
      rw [property?] at h
      split at h
      · rw [← Option.some.inj h]
        exact HasPart.elementCount elements
      · obtain ⟨place, -, hx⟩ := Option.bind_eq_some_iff.1 h
        exact HasPart.element (List.mem_of_getElem? hx)
  | string text =>
      rw [property?] at h
      split at h
      · rw [← Option.some.inj h]
        exact HasPart.characterCount text
      · obtain ⟨place, -, hx⟩ := Option.bind_eq_some_iff.1 h
        exact HasPart.of_charAt? hx
  | null | bool | number => cases h

theorem HasPart.of_elementAt? {input x : Json} {index : Int}
    (h : input.elementAt? index = some x) : input.HasPart x := by
  cases input with
  | object entries =>
      rw [elementAt?_object] at h
      obtain ⟨key, -, hx⟩ := Option.bind_eq_some_iff.1 h
      exact HasPart.value hx
  | array elements =>
      obtain ⟨place, -, hx⟩ := Option.bind_eq_some_iff.1 h
      exact HasPart.element (List.mem_of_getElem? hx)
  | string text =>
      obtain ⟨place, -, hx⟩ := Option.bind_eq_some_iff.1 h
      exact HasPart.of_charAt? hx
  | null | bool | number => cases h

theorem HasPart.of_resolveKey? {input x : Json} {key : String}
    (h : input.resolveKey? key = some x) : input.HasPart x := by
  rw [resolveKey?_eq, Option.or_eq_some_iff] at h
  rcases h with hkey | ⟨-, hindex⟩
  · exact HasPart.of_property? (present?_eq_some_iff.1 hkey).1
  · obtain ⟨index, -, hx⟩ := Option.bind_eq_some_iff.1 hindex
    exact HasPart.of_elementAt? hx

theorem HasPart.of_resolve? {input x : Json} {key : String} (h : input.resolve? key = some x) :
    input.HasPart x := by
  cases input with
  | array elements =>
      rw [resolve?] at h
      split at h
      · rw [← Option.some.inj h]
        exact HasPart.elementCount elements
      · split at h
        · exact HasPart.element (List.mem_of_getLast? h)
        · exact HasPart.of_resolveKey? h
  | _ => exact HasPart.of_resolveKey? h

end Json

/-! ## Results -/

theorem Selector.extract_ne_null (selector : Selector) (input : Json) :
    selector.extract input ≠ .null := by
  intro hnull
  have htruthy := selector.isTruthy_extract input
  rw [hnull] at htruthy
  cases htruthy

/-- What an item adds is no null, and is justified if what is nested in it is. -/
theorem Item.justified_contribution {items : List Item} {item : Item} (hitem : item ∈ items)
    {input : Json} (ih : ∀ pairs, item = .nested pairs → ∀ pair ∈ pairs, ∀ value,
      Justified pair.2 value (pair.2.extract value))
    {written : String × Json} (h : item.contribution input = some written) :
    written.2 ≠ .null ∧ JustifiedEntry items input written := by
  cases item with
  | field field =>
      obtain ⟨value, hv, hnull, rfl⟩ := Field.contribution_eq_some_iff.1 h
      exact ⟨hnull, JustifiedEntry.field hitem (Json.HasPart.of_resolve? hv)⟩
  | nested pairs =>
      obtain ⟨pair, hpair, value, hv, rfl⟩ := Item.exists_of_pairsContribution h
      obtain ⟨hproperty, htruthy⟩ := Json.present?_eq_some_iff.1 hv
      exact ⟨pair.2.extract_ne_null value,
        JustifiedEntry.nested hitem hpair hproperty htruthy (ih pairs rfl pair hpair value)⟩

/-- **Provenance.** Every result is justified by the selector and the input. -/
theorem justified_extract (selector : Selector) (input : Json) :
    Justified selector input (selector.extract input) := by
  induction selector using Selector.induction generalizing input with
  | fields items ih =>
      have hentry : ∀ entry ∈ Entries.ofPairs (Item.contributions items input),
          entry.2 ≠ .null ∧ JustifiedEntry items input entry := by
        intro entry he
        have hwritten := Entries.mem_of_mem_ofPairs he
        rw [Item.contributions_eq_filterMap] at hwritten
        obtain ⟨item, hitem, hc⟩ := List.mem_filterMap.1 hwritten
        refine Item.justified_contribution hitem ?_ hc
        rintro pairs rfl pair hpair value
        exact ih pairs hitem pair hpair value
      exact Justified.fields (fun entry he => (hentry entry he).1)
        (fun entry he => (hentry entry he).2)
  | eachItem inner ih =>
      cases input with
      | array elements =>
          refine Justified.each (List.length_map _) fun i he hr => ?_
          rw [List.getElem_map]
          exact ih elements[i]
      | _ => exact Justified.noArray rfl

end Pluck
