import Pluck.Proofs.Walks
import Pluck.Selector.Text

/-!
Reading a selector, case by case.

Lists of items and of entries are read one after the other until one is refused: all are accepted
(`exists_mapM_eq_ok_iff`) or a first one is not (`mapM_eq_error_iff`). A pointer is no array, an
array around a single array, or a list; `Selector.ofJson_induction` goes along these cases, and
each has its equation. A text is JSON or it is not, and the readers of texts have an equation for
either case.
-/

namespace Pluck

section Errors

variable {ε ε' α : Type} {f : ε → ε'} {result : Except ε α}

theorem mapError_eq_ok_iff {x : α} : result.mapError f = .ok x ↔ result = .ok x := by
  cases result <;> simp [Except.mapError]

theorem mapError_eq_error_iff {e' : ε'} :
    result.mapError f = .error e' ↔ ∃ e, result = .error e ∧ f e = e' := by
  cases result <;> simp [Except.mapError]

end Errors

section Traversal

variable {ε α β : Type} {f : α → Except ε β}

theorem mapM_cons_eq_ok_iff {x : α} {xs : List α} {ys : List β} :
    (x :: xs).mapM f = .ok ys ↔
      ∃ y rest, f x = .ok y ∧ xs.mapM f = .ok rest ∧ ys = y :: rest := by
  rw [List.mapM_cons]
  cases hx : f x with
  | error e => simp [bind, Except.bind]
  | ok y => cases hxs : xs.mapM f <;> simp [bind, Except.bind, pure, Except.pure, eq_comm]

theorem mapM_cons_eq_error_iff {x : α} {xs : List α} {e : ε} :
    (x :: xs).mapM f = .error e ↔
      f x = .error e ∨ ∃ y, f x = .ok y ∧ xs.mapM f = .error e := by
  rw [List.mapM_cons]
  cases hx : f x with
  | error e' => simp [bind, Except.bind]
  | ok y => cases hxs : xs.mapM f <;> simp [bind, Except.bind, pure, Except.pure]

/-- What undoes each step undoes the whole. -/
theorem map_eq_of_mapM_eq_ok {g : β → α} {xs : List α} {ys : List β} (h : xs.mapM f = .ok ys)
    (hg : ∀ x ∈ xs, ∀ y, f x = .ok y → g y = x) : ys.map g = xs := by
  induction xs generalizing ys with
  | nil =>
      cases h
      rfl
  | cons x xs ih =>
      obtain ⟨y, rest, hy, hrest, rfl⟩ := mapM_cons_eq_ok_iff.1 h
      have hhead := hg x List.mem_cons_self y hy
      have htail := ih hrest fun z hz => hg z (List.mem_cons_of_mem _ hz)
      rw [List.map_cons, hhead, htail]

theorem exists_of_mem_mapM {xs : List α} {ys : List β} (h : xs.mapM f = .ok ys) {y : β}
    (hy : y ∈ ys) : ∃ x ∈ xs, f x = .ok y := by
  induction xs generalizing ys with
  | nil =>
      cases h
      cases hy
  | cons x xs ih =>
      obtain ⟨z, rest, hz, hrest, rfl⟩ := mapM_cons_eq_ok_iff.1 h
      rcases List.mem_cons.1 hy with rfl | hm
      · exact ⟨x, List.mem_cons_self, hz⟩
      · obtain ⟨w, hw, hfw⟩ := ih hrest hm
        exact ⟨w, List.mem_cons_of_mem _ hw, hfw⟩

theorem mapM_map_eq_ok {γ : Type} {h : γ → α} {g : γ → β} {xs : List γ}
    (hf : ∀ x ∈ xs, f (h x) = .ok (g x)) : (xs.map h).mapM f = .ok (xs.map g) := by
  induction xs with
  | nil => rfl
  | cons x xs ih =>
      have hhead := hf x List.mem_cons_self
      have htail := ih fun y hy => hf y (List.mem_cons_of_mem _ hy)
      exact mapM_cons_eq_ok_iff.2 ⟨g x, xs.map g, hhead, htail, rfl⟩

theorem exists_mapM_eq_ok_iff {xs : List α} :
    (∃ ys, xs.mapM f = .ok ys) ↔ ∀ x ∈ xs, ∃ y, f x = .ok y := by
  induction xs with
  | nil => simp [pure, Except.pure]
  | cons x xs ih =>
      rw [List.forall_mem_cons, ← ih]
      constructor
      · rintro ⟨ys, h⟩
        obtain ⟨y, rest, hy, hrest, -⟩ := mapM_cons_eq_ok_iff.1 h
        exact ⟨⟨y, hy⟩, ⟨rest, hrest⟩⟩
      · rintro ⟨⟨y, hy⟩, ⟨rest, hrest⟩⟩
        exact ⟨y :: rest, mapM_cons_eq_ok_iff.2 ⟨y, rest, hy, hrest, rfl⟩⟩

/-- The error is that of the first element that has one. -/
theorem mapM_eq_error_iff {xs : List α} {e : ε} :
    xs.mapM f = .error e ↔
      ∃ before x after, xs = before ++ x :: after ∧
        (∀ y ∈ before, ∃ z, f y = .ok z) ∧ f x = .error e := by
  induction xs with
  | nil => simp [pure, Except.pure]
  | cons head xs ih =>
      rw [mapM_cons_eq_error_iff, ih]
      constructor
      · rintro (h | ⟨z, hz, before, x, after, rfl, hbefore, hx⟩)
        · exact ⟨[], head, xs, rfl, by simp, h⟩
        · exact ⟨head :: before, x, after, rfl, List.forall_mem_cons.2 ⟨⟨z, hz⟩, hbefore⟩, hx⟩
      · rintro ⟨before, x, after, hxs, hbefore, hx⟩
        cases before with
        | nil =>
            obtain ⟨rfl, rfl⟩ := List.cons.inj hxs
            exact Or.inl hx
        | cons first before =>
            obtain ⟨rfl, rfl⟩ := List.cons.inj hxs
            obtain ⟨⟨z, hz⟩, hrest⟩ := List.forall_mem_cons.1 hbefore
            exact Or.inr ⟨z, hz, before, x, after, rfl, hrest, hx⟩

end Traversal

/-! ## Items -/

theorem Item.listOfJson_eq_mapM (xs : List Json) : Item.listOfJson xs = xs.mapM Item.ofJson := by
  induction xs with
  | nil => rfl
  | cons x rest ih =>
      rw [Item.listOfJson, List.mapM_cons, ← ih]
      cases Item.ofJson x with
      | error e => rfl
      | ok item => cases Item.listOfJson rest <;> rfl

/-- Reads an entry, the key as it is. -/
def Item.entryOfJson (entry : String × Json) : Except SelectorError (String × Selector) :=
  (Selector.ofJson entry.2).map fun selector => (entry.1, selector)

theorem Item.entryOfJson_eq_ok_iff {entry : String × Json} {pair : String × Selector} :
    Item.entryOfJson entry = .ok pair ↔
      pair.1 = entry.1 ∧ Selector.ofJson entry.2 = .ok pair.2 := by
  obtain ⟨key, selector⟩ := pair
  cases h : Selector.ofJson entry.2 <;> simp [Item.entryOfJson, h, Except.map, eq_comm]

theorem Item.entryOfJson_eq_error_iff {entry : String × Json} {e : SelectorError} :
    Item.entryOfJson entry = .error e ↔ Selector.ofJson entry.2 = .error e := by
  cases h : Selector.ofJson entry.2 <;> simp [Item.entryOfJson, h, Except.map]

theorem Item.pairsOfJson_eq_mapM (entries : List (String × Json)) :
    Item.pairsOfJson entries = entries.mapM Item.entryOfJson := by
  induction entries with
  | nil => rfl
  | cons entry rest ih =>
      rw [Item.pairsOfJson, List.mapM_cons, ← ih, Item.entryOfJson]
      cases Selector.ofJson entry.2 with
      | error e => rfl
      | ok selector => cases Item.pairsOfJson rest <;> rfl

theorem Item.ofJson_object_eq_ok_iff {entries : List (String × Json)} {item : Item} :
    Item.ofJson (.object entries) = .ok item ↔
      ∃ pairs, entries.mapM Item.entryOfJson = .ok pairs ∧ item = .nested pairs := by
  rw [Item.ofJson, Item.pairsOfJson_eq_mapM]
  cases entries.mapM Item.entryOfJson <;> simp [eq_comm]

theorem Item.ofJson_object_eq_error_iff {entries : List (String × Json)} {e : SelectorError} :
    Item.ofJson (.object entries) = .error e ↔ entries.mapM Item.entryOfJson = .error e := by
  rw [Item.ofJson, Item.pairsOfJson_eq_mapM]
  cases entries.mapM Item.entryOfJson <;> simp

/-! ## Pointers -/

/-- Descends as `Selector.ofJson` does: from an array around an array to that array, and from a list
to the values under the keys of its objects. -/
@[elab_as_elim]
theorem Selector.ofJson_induction {motive : Json → Prop}
    (scalar : ∀ v, v.isArray = false → motive v)
    (single : ∀ elements, motive (.array elements) → motive (.array [.array elements]))
    (list : ∀ xs, (∀ elements, xs ≠ [.array elements]) →
      (∀ entries, .object entries ∈ xs → ∀ entry ∈ entries, motive entry.2) → motive (.array xs))
    (v : Json) : motive v := by
  cases v with
  | array xs =>
      by_cases hs : ∃ elements, xs = [.array elements]
      · obtain ⟨elements, rfl⟩ := hs
        exact single elements (Selector.ofJson_induction scalar single list (.array elements))
      · refine list xs (fun elements e => hs ⟨elements, e⟩) fun entries hx entry hentry => ?_
        exact Selector.ofJson_induction scalar single list entry.2
  | _ => exact scalar _ rfl
termination_by sizeOf v
decreasing_by
  · subst_vars
    simp only [Json.array.sizeOf_spec, List.cons.sizeOf_spec, List.nil.sizeOf_spec]
    omega
  · have hobject := List.sizeOf_lt_of_mem hx
    have hvalue := sizeOf_snd_lt_of_mem hentry
    simp only [Json.object.sizeOf_spec, Json.array.sizeOf_spec] at hobject ⊢
    omega

theorem Selector.ofJson_of_not_isArray {v : Json} (h : v.isArray = false) :
    Selector.ofJson v = .error (.invalid v) := by
  cases v with
  | array xs => simp [Json.isArray] at h
  | _ => simp [Selector.ofJson]

theorem Selector.ofJson_single_eq_ok_iff {elements : List Json} {selector : Selector} :
    Selector.ofJson (.array [.array elements]) = .ok selector ↔
      ∃ inner, Selector.ofJson (.array elements) = .ok inner ∧ selector = .eachItem inner := by
  rw [Selector.ofJson]
  cases Selector.ofJson (.array elements) <;> simp [eq_comm]

theorem Selector.ofJson_single_eq_error_iff {elements : List Json} {e : SelectorError} :
    Selector.ofJson (.array [.array elements]) = .error e ↔
      Selector.ofJson (.array elements) = .error e := by
  rw [Selector.ofJson]
  cases Selector.ofJson (.array elements) <;> simp

section List

variable {xs : List Json} (h : ∀ elements, xs ≠ [.array elements])

include h

theorem Selector.ofJson_list : Selector.ofJson (.array xs) =
    if xs.any Json.isArray then .error (.mixed (.array xs))
    else ((xs.mapM Item.ofJson).mapError (.within (.array xs))).map .fields := by
  rw [Selector.ofJson, Item.listOfJson_eq_mapM]
  · split
    · rfl
    · cases xs.mapM Item.ofJson <;> rfl
  · intro elements e
    exact h elements e

theorem Selector.ofJson_list_eq_ok_iff {selector : Selector} :
    Selector.ofJson (.array xs) = .ok selector ↔
      xs.any Json.isArray = false ∧
        ∃ items, xs.mapM Item.ofJson = .ok items ∧ selector = .fields items := by
  rw [Selector.ofJson_list h]
  cases xs.any Json.isArray
  · cases xs.mapM Item.ofJson <;> simp [Except.mapError, Except.map, eq_comm]
  · simp

theorem Selector.ofJson_list_eq_error_iff {e : SelectorError} :
    Selector.ofJson (.array xs) = .error e ↔
      (xs.any Json.isArray = true ∧ e = .mixed (.array xs)) ∨
        (xs.any Json.isArray = false ∧
          ∃ fault, xs.mapM Item.ofJson = .error fault ∧ e = .within (.array xs) fault) := by
  rw [Selector.ofJson_list h]
  cases xs.any Json.isArray
  · cases xs.mapM Item.ofJson <;> simp [Except.mapError, Except.map, eq_comm]
  · simp [eq_comm]

end List

/-! ## Texts -/

section Texts

variable {ε : Type} {notJson : String → ε} {invalid : SelectorError → ε} {text : String}

theorem Selector.readWith_of_read {pointer : Json} (h : Json.read text = .ok pointer) :
    readWith notJson invalid text = (ofJson pointer).mapError invalid := by
  unfold readWith
  simp only [h]
  cases ofJson pointer <;> rfl

theorem Selector.readWith_of_not_read {message : String} (h : Json.read text = .error message) :
    readWith notJson invalid text = .error (notJson message) := by
  unfold readWith
  simp only [h]

/-- Which texts are taken does not depend on what is said of the others. -/
theorem Selector.readWith_eq_ok_iff {selector : Selector} :
    readWith notJson invalid text = .ok selector ↔
      ∃ pointer, Json.read text = .ok pointer ∧ ofJson pointer = .ok selector := by
  cases hread : Json.read text with
  | error message => simp [readWith_of_not_read hread]
  | ok pointer => simp [readWith_of_read hread, mapError_eq_ok_iff]

end Texts

end Pluck
