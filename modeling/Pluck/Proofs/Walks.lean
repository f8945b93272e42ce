import Pluck.Extraction
import Pluck.Proofs.Entries

/-!
Walking a selector or a value as a whole.

The recursive functions on selectors pass through lists of items and of pairs, those on values
through lists of elements and of entries. Here each such pass is equal to a function on lists. One
induction (`Selector.induction`) descends from a selector to those under the keys of its nested
items, another one (`Json.induction`) from a value to its elements and the values under its keys.
-/

namespace Pluck

theorem sizeOf_snd_lt_of_mem {α : Type} [SizeOf α] {pair : String × α}
    {pairs : List (String × α)} (h : pair ∈ pairs) : sizeOf pair.2 < sizeOf pairs := by
  have hpair := List.sizeOf_lt_of_mem h
  have hsnd : sizeOf pair = 1 + sizeOf pair.1 + sizeOf pair.2 := by
    cases pair
    exact Prod.mk.sizeOf_spec _ _
  omega

theorem map_eq_self_iff {α : Type} {f : α → α} {xs : List α} :
    xs.map f = xs ↔ ∀ x ∈ xs, f x = x := by
  have h : xs.map f = xs.map id ↔ ∀ x ∈ xs, f x = id x := List.map_inj_left
  rwa [List.map_id] at h

/-- To prove something of all selectors it may be assumed of those that an item nests. -/
@[elab_as_elim]
theorem Selector.induction {motive : Selector → Prop}
    (fields : ∀ items, (∀ pairs, .nested pairs ∈ items → ∀ pair ∈ pairs, motive pair.2) →
      motive (.fields items))
    (eachItem : ∀ inner, motive inner → motive (.eachItem inner)) :
    ∀ selector, motive selector
  | .fields items =>
      fields items fun pairs _hitem pair _hpair => Selector.induction fields eachItem pair.2
  | .eachItem inner => eachItem inner (Selector.induction fields eachItem inner)
termination_by selector => sizeOf selector
decreasing_by
  · have hpairs := List.sizeOf_lt_of_mem _hitem
    have hselector := sizeOf_snd_lt_of_mem _hpair
    simp only [Item.nested.sizeOf_spec, Selector.fields.sizeOf_spec] at hpairs ⊢
    omega
  · simp

/-- `P` holds of every item, at whatever depth. -/
inductive Selector.Everywhere (P : Item → Prop) : Selector → Prop
  | fields {items : List Item} (here : ∀ item ∈ items, P item)
      (below : ∀ pairs, .nested pairs ∈ items → ∀ pair ∈ pairs, pair.2.Everywhere P) :
      Everywhere P (.fields items)
  | eachItem {inner : Selector} (below : inner.Everywhere P) : Everywhere P (.eachItem inner)

theorem Selector.everywhere_fields_iff (P : Item → Prop) (items : List Item) :
    (Selector.fields items).Everywhere P ↔ (∀ item ∈ items, P item) ∧
      ∀ pairs, .nested pairs ∈ items → ∀ pair ∈ pairs, pair.2.Everywhere P := by
  constructor
  · rintro (⟨here, below⟩ | _)
    exact ⟨here, below⟩
  · rintro ⟨here, below⟩
    exact .fields here below

theorem Selector.everywhere_eachItem_iff (P : Item → Prop) (inner : Selector) :
    (Selector.eachItem inner).Everywhere P ↔ inner.Everywhere P := by
  constructor
  · rintro (_ | ⟨below⟩)
    exact below
  · exact .eachItem

theorem Selector.Everywhere.imp {P Q : Item → Prop} (hPQ : ∀ item, P item → Q item)
    {selector : Selector} (h : selector.Everywhere P) : selector.Everywhere Q := by
  induction h with
  | fields here _ ih => exact .fields (fun item hi => hPQ item (here item hi)) ih
  | eachItem _ ih => exact .eachItem ih

/-! ## Values -/

/-- To prove something of all values it may be assumed of the elements of an array and of the values
in an object. -/
@[elab_as_elim]
theorem Json.induction {motive : Json → Prop} (null : motive .null) (bool : ∀ b, motive (.bool b))
    (number : ∀ n, motive (.number n)) (string : ∀ s, motive (.string s))
    (array : ∀ elements, (∀ x ∈ elements, motive x) → motive (.array elements))
    (object : ∀ entries, (∀ entry ∈ entries, motive entry.2) → motive (.object entries)) :
    ∀ v, motive v
  | .null => null
  | .bool b => bool b
  | .number n => number n
  | .string s => string s
  | .array elements =>
      array elements fun x _hx => Json.induction null bool number string array object x
  | .object entries =>
      object entries fun entry _he => Json.induction null bool number string array object entry.2
termination_by v => sizeOf v
decreasing_by
  · have hx := List.sizeOf_lt_of_mem _hx
    simp only [Json.array.sizeOf_spec]
    omega
  · have hx := sizeOf_snd_lt_of_mem _he
    simp only [Json.object.sizeOf_spec]
    omega

theorem Json.wellFormed_array_iff (elements : List Json) :
    (Json.array elements).WellFormed ↔ ∀ x ∈ elements, x.WellFormed := by
  rw [WellFormed]
  induction elements with
  | nil => simp [WellFormedElements]
  | cons x rest ih => simp [WellFormedElements, ih]

theorem Json.wellFormed_object_iff (entries : List (String × Json)) :
    (Json.object entries).WellFormed ↔
      (Entries.keys entries).Nodup ∧ ∀ entry ∈ entries, entry.2.WellFormed := by
  have hvalues : WellFormedEntries entries ↔ ∀ entry ∈ entries, entry.2.WellFormed := by
    induction entries with
    | nil => simp [WellFormedEntries]
    | cons entry rest ih => simp only [WellFormedEntries, List.forall_mem_cons, ih]
  rw [WellFormed, hvalues]

mutual

/-- The number of levels of containers in a value. -/
def Json.nesting : Json → Nat
  | .array elements => 1 + Json.nestingElements elements
  | .object entries => 1 + Json.nestingEntries entries
  | _ => 0

def Json.nestingElements : List Json → Nat
  | [] => 0
  | x :: rest => max x.nesting (Json.nestingElements rest)

def Json.nestingEntries : List (String × Json) → Nat
  | [] => 0
  | (_, x) :: rest => max x.nesting (Json.nestingEntries rest)

end

theorem Json.nesting_array_le_iff (elements : List Json) (levels : Nat) :
    (Json.array elements).nesting ≤ levels + 1 ↔ ∀ x ∈ elements, x.nesting ≤ levels := by
  have hmax : nestingElements elements ≤ levels ↔ ∀ x ∈ elements, x.nesting ≤ levels := by
    induction elements with
    | nil => simp [nestingElements]
    | cons x rest ih => simp only [nestingElements, List.forall_mem_cons, Nat.max_le, ih]
  rw [nesting, Nat.add_comm, Nat.succ_le_succ_iff, hmax]

theorem Json.nesting_object_le_iff (entries : List (String × Json)) (levels : Nat) :
    (Json.object entries).nesting ≤ levels + 1 ↔ ∀ entry ∈ entries, entry.2.nesting ≤ levels := by
  have hmax : nestingEntries entries ≤ levels ↔ ∀ entry ∈ entries, entry.2.nesting ≤ levels := by
    induction entries with
    | nil => simp [nestingEntries]
    | cons entry rest ih => simp only [nestingEntries, List.forall_mem_cons, Nat.max_le, ih]
  rw [nesting, Nat.add_comm, Nat.succ_le_succ_iff, hmax]

/-- `P` holds of every number, at whatever depth. -/
inductive Json.EveryNumber (P : Number → Prop) : Json → Prop
  | null : EveryNumber P .null
  | bool (b : Bool) : EveryNumber P (.bool b)
  | number {n : Number} (h : P n) : EveryNumber P (.number n)
  | string (s : String) : EveryNumber P (.string s)
  | array {elements : List Json} (h : ∀ x ∈ elements, x.EveryNumber P) :
      EveryNumber P (.array elements)
  | object {entries : List (String × Json)} (h : ∀ entry ∈ entries, entry.2.EveryNumber P) :
      EveryNumber P (.object entries)

/-- Equal numbers are the same, but for the two zeros. -/
theorem Number.equal_iff {m n : Number} :
    m.equal n = true ↔ m = n ∨
      ∃ x y, m = .float x ∧ n = .float y ∧ x.isZero = true ∧ y.isZero = true := by
  cases m with
  | whole m => cases n with
    | whole n =>
        obtain ⟨m, _, _⟩ := m
        obtain ⟨n, _, _⟩ := n
        simp [equal]
    | float y => simp [equal]
  | float x => cases n with
    | whole n => simp [equal]
    | float y => simp [equal, Binary64.equal, or_comm]

/-! ## Rendering -/

theorem Item.listToJson_eq_map (items : List Item) :
    Item.listToJson items = items.map Item.toJson := by
  induction items with
  | nil => rfl
  | cons item rest ih => simp [Item.listToJson, ih]

theorem Item.pairsToJson_eq_mapValues (pairs : List (String × Selector)) :
    Item.pairsToJson pairs = Entries.mapValues Selector.toJson pairs := by
  induction pairs with
  | nil => rfl
  | cons pair rest ih => simp [Item.pairsToJson, Entries.mapValues, ih]

/-! ## Extraction -/

theorem Item.contributions_eq_filterMap (items : List Item) (input : Json) :
    Item.contributions items input = items.filterMap fun item => item.contribution input := by
  induction items with
  | nil => rfl
  | cons item rest ih =>
      cases h : item.contribution input <;> simp [Item.contributions, h, ih]

/-- A later pair goes before an earlier one. -/
theorem Item.pairsContribution_cons (pair : String × Selector) (rest : List (String × Selector))
    (input : Json) :
    Item.pairsContribution (pair :: rest) input =
      (Item.pairsContribution rest input).or
        ((input.present? pair.1).map fun value => (pair.1, pair.2.extract value)) := by
  rw [Item.pairsContribution]
  cases Item.pairsContribution rest input with
  | some later => rfl
  | none => cases input.present? pair.1 <;> rfl

end Pluck
