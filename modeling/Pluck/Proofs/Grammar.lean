import Pluck.Proofs.Reading

/-!
The grammar of pointers, the JSON forms of selectors.

`IsPointer` says what a pointer is without reading it. Exactly the pointers are read as selectors
(`Selector.accepts_iff`), and extraction is refused exactly for all other values, whatever the
input is (`extract_isOk_iff_isPointer`).
-/

namespace Pluck

mutual

/-- An array whose only element is again a pointer, or a list of items. -/
inductive IsPointer : Json → Prop
  | each {inner : Json} (h : IsPointer inner) : IsPointer (.array [inner])
  | list {xs : List Json} (hflat : ∀ x ∈ xs, x.isArray = false)
      (hitems : ∀ x ∈ xs, IsPointerItem x) : IsPointer (.array xs)

/-- A string, a number, or an object with pointers under all its keys. -/
inductive IsPointerItem : Json → Prop
  | string (s : String) : IsPointerItem (.string s)
  | number (n : Number) : IsPointerItem (.number n)
  | object {entries : List (String × Json)} (h : ∀ entry ∈ entries, IsPointer entry.2) :
      IsPointerItem (.object entries)

end

theorem IsPointer.isArray {v : Json} (h : IsPointer v) : v.isArray = true := by
  cases h <;> rfl

theorem isPointer_single_iff (elements : List Json) :
    IsPointer (.array [.array elements]) ↔ IsPointer (.array elements) := by
  constructor
  · intro h
    cases h with
    | each h => exact h
    | list hflat _ => exact absurd (hflat _ List.mem_cons_self) (by simp [Json.isArray])
  · exact IsPointer.each

theorem isPointer_list_iff {xs : List Json} (hxs : ∀ elements, xs ≠ [.array elements]) :
    IsPointer (.array xs) ↔ (∀ x ∈ xs, x.isArray = false) ∧ ∀ x ∈ xs, IsPointerItem x := by
  constructor
  · intro h
    cases h with
    | @each inner h =>
        -- the only element of `xs` would be an array
        have ha := h.isArray
        cases inner with
        | array elements => exact absurd rfl (hxs elements)
        | _ => simp [Json.isArray] at ha
    | list hflat hitems => exact ⟨hflat, hitems⟩
  · rintro ⟨hflat, hitems⟩
    exact IsPointer.list hflat hitems

theorem isPointerItem_object_iff (entries : List (String × Json)) :
    IsPointerItem (.object entries) ↔ ∀ entry ∈ entries, IsPointer entry.2 := by
  constructor
  · intro h
    cases h with
    | object h => exact h
  · exact IsPointerItem.object

/-! ## Reading -/

theorem Item.accepts_object_iff {entries : List (String × Json)}
    (ih : ∀ entry ∈ entries,
      ((∃ selector, Selector.ofJson entry.2 = .ok selector) ↔ IsPointer entry.2)) :
    (∃ item, Item.ofJson (.object entries) = .ok item) ↔
      ∀ entry ∈ entries, IsPointer entry.2 := by
  have hentry : ∀ entry ∈ entries,
      ((∃ pair, Item.entryOfJson entry = .ok pair) ↔ IsPointer entry.2) := by
    intro entry he
    rw [← ih entry he]
    constructor
    · rintro ⟨pair, hp⟩
      exact ⟨pair.2, (Item.entryOfJson_eq_ok_iff.1 hp).2⟩
    · rintro ⟨selector, hs⟩
      exact ⟨(entry.1, selector), Item.entryOfJson_eq_ok_iff.2 ⟨rfl, hs⟩⟩
  rw [← forall₂_congr hentry, ← exists_mapM_eq_ok_iff]
  constructor
  · rintro ⟨item, h⟩
    obtain ⟨pairs, hpairs, -⟩ := Item.ofJson_object_eq_ok_iff.1 h
    exact ⟨pairs, hpairs⟩
  · rintro ⟨pairs, hpairs⟩
    exact ⟨.nested pairs, Item.ofJson_object_eq_ok_iff.2 ⟨pairs, hpairs, rfl⟩⟩

theorem Item.accepts_iff {x : Json} (ih : ∀ entries, x = .object entries → ∀ entry ∈ entries,
      ((∃ selector, Selector.ofJson entry.2 = .ok selector) ↔ IsPointer entry.2)) :
    (∃ item, Item.ofJson x = .ok item) ↔ IsPointerItem x := by
  cases x with
  | string s => exact ⟨fun _ => .string s, fun _ => ⟨.field (.name s), rfl⟩⟩
  | number n => exact ⟨fun _ => .number n, fun _ => ⟨.field (.index n), rfl⟩⟩
  | object entries => rw [Item.accepts_object_iff (ih entries rfl), isPointerItem_object_iff]
  | null | bool | array =>
      constructor
      · rintro ⟨item, h⟩
        cases h
      · intro h
        cases h

/-- Exactly the pointers are read as selectors. -/
theorem Selector.accepts_iff (v : Json) :
    (∃ selector, Selector.ofJson v = .ok selector) ↔ IsPointer v := by
  induction v using Selector.ofJson_induction with
  | scalar v hscalar =>
      rw [Selector.ofJson_of_not_isArray hscalar]
      constructor
      · rintro ⟨selector, h⟩
        cases h
      · intro h
        rw [h.isArray] at hscalar
        cases hscalar
  | single elements ih =>
      rw [isPointer_single_iff, ← ih]
      constructor
      · rintro ⟨selector, h⟩
        obtain ⟨inner, hinner, -⟩ := Selector.ofJson_single_eq_ok_iff.1 h
        exact ⟨inner, hinner⟩
      · rintro ⟨inner, hinner⟩
        exact ⟨.eachItem inner, Selector.ofJson_single_eq_ok_iff.2 ⟨inner, hinner, rfl⟩⟩
  | list xs hxs ih =>
      have hitem : ∀ x ∈ xs, ((∃ item, Item.ofJson x = .ok item) ↔ IsPointerItem x) := by
        intro x hx
        exact Item.accepts_iff fun entries e => ih entries (e ▸ hx)
      have hflat : xs.any Json.isArray = false ↔ ∀ x ∈ xs, x.isArray = false := by simp
      rw [isPointer_list_iff hxs, ← hflat, ← forall₂_congr hitem, ← exists_mapM_eq_ok_iff]
      constructor
      · rintro ⟨selector, h⟩
        obtain ⟨hany, items, hitems, -⟩ := (Selector.ofJson_list_eq_ok_iff hxs).1 h
        exact ⟨hany, items, hitems⟩
      · rintro ⟨hany, items, hitems⟩
        exact ⟨.fields items, (Selector.ofJson_list_eq_ok_iff hxs).2 ⟨hany, items, hitems, rfl⟩⟩

/-! ## Extraction -/

theorem extract_eq_error_iff {pointer input : Json} {e : SelectorError} :
    extract pointer input = .error e ↔ Selector.ofJson pointer = .error e := by
  cases h : Selector.ofJson pointer <;> simp [extract, h]

theorem extract_eq_ok_iff {pointer input result : Json} :
    extract pointer input = .ok result ↔
      ∃ selector, Selector.ofJson pointer = .ok selector ∧ selector.extract input = result := by
  cases h : Selector.ofJson pointer <;> simp [extract, h]

theorem Selector.extract_object_or_array (selector : Selector) (input : Json) :
    (∃ entries, selector.extract input = .object entries) ∨
      ∃ elements, selector.extract input = .array elements := by
  cases selector with
  | fields items => exact Or.inl ⟨_, rfl⟩
  | eachItem inner => cases input <;> exact Or.inr ⟨_, rfl⟩

/-- **Grammar.** Reading accepts exactly the pointers. Extraction fails exactly for what is no
pointer, on every input with one and the same error; otherwise it gives an object or an array. -/
theorem extract_isOk_iff_isPointer (pointer : Json) :
    ((∃ selector, Selector.ofJson pointer = .ok selector) ↔ IsPointer pointer) ∧
    (∀ input, (∃ e, extract pointer input = .error e) ↔ ¬ IsPointer pointer) ∧
    (∀ input other e, extract pointer input = .error e → extract pointer other = .error e) ∧
    ∀ input result, extract pointer input = .ok result →
      (∃ entries, result = .object entries) ∨ ∃ elements, result = .array elements := by
  refine ⟨Selector.accepts_iff pointer, ?_, ?_, ?_⟩
  · intro input
    rw [← Selector.accepts_iff]
    cases h : Selector.ofJson pointer <;> simp [extract, h]
  · intro input other e h
    exact extract_eq_error_iff.2 (extract_eq_error_iff.1 h)
  · intro input result h
    obtain ⟨selector, -, rfl⟩ := extract_eq_ok_iff.1 h
    exact selector.extract_object_or_array input

/-- A list with a fault under a key. -/
def hiddenFault : Json := .array [.object [("a", .array [.null])]]

theorem extract_isOk_iff_isPointer_hiddenFault :
    (extract hiddenFault (.object []) =
        .error (.within hiddenFault (.within (.array [.null]) (.invalid .null))) ∧
      extract hiddenFault (.string "b") =
        .error (.within hiddenFault (.within (.array [.null]) (.invalid .null)))) ∧
    extract (.array [.array [.string "a"]]) (.array [.null]) = .ok (.array [.object []]) ∧
      ((∃ entries, Json.array [.object []] = .object entries) ∨
        ∃ elements, Json.array [.object []] = .array elements) := by
  have hfault : extract hiddenFault (.object []) =
      .error (.within hiddenFault (.within (.array [.null]) (.invalid .null))) := by
    rfl
  have hread : extract (.array [.array [.string "a"]]) (.array [.null]) =
      .ok (.array [.object []]) := by
    rfl
  exact ⟨⟨hfault, (extract_isOk_iff_isPointer hiddenFault).2.2.1 _ _ _ hfault⟩, hread,
    (extract_isOk_iff_isPointer _).2.2.2 _ _ hread⟩

end Pluck
