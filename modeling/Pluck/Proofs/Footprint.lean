import Mathlib.Data.List.Basic
import Pluck.Proofs.Lookups

/-!
The keys of an object that matter.

Extraction from an object looks up the keys that the items name, and no others: the key of a field
and of every pair and, if an integer stands at the front of the key of a field, the key of that index
(`Item.Reads`). For a negative index the object itself has a say in this, by its `length`. Objects
that agree on these keys give the same result (`extract_object_congr`).
-/

namespace Pluck

/-- The keys that a field looks up in an object: its own and, if an integer stands at the front of
that, the key of this index. -/
inductive Field.Reads (entries : Entries Json) (field : Field) : String → Prop
  | itself : field.Reads entries field.key
  /-- A negative index counts back from the number under `length`. -/
  | length {index : Int} (hinteger : leadingInteger? field.key = some index)
      (hnegative : index < 0) : field.Reads entries "length"
  | index {index : Int} {key : String} (hinteger : leadingInteger? field.key = some index)
      (hkey : entries.indexKey? index = some key) : field.Reads entries key

/-- The keys that an item looks up in an object. -/
inductive Item.Reads (entries : Entries Json) : Item → String → Prop
  | field {field : Field} {key : String} (h : field.Reads entries key) :
      Reads entries (.field field) key
  | nested {pairs : List (String × Selector)} {pair : String × Selector} (h : pair ∈ pairs) :
      Reads entries (.nested pairs) pair.1

/-! ## Single lookups -/

section Lookup

variable {first second : Entries Json}

theorem Entries.indexKey?_congr {index : Int}
    (h : index < 0 → get? "length" first = get? "length" second) :
    first.indexKey? index = second.indexKey? index := by
  by_cases hi : 0 ≤ index
  · rw [indexKey?, indexKey?, if_pos hi, if_pos hi]
  · rw [indexKey?, indexKey?, if_neg hi, if_neg hi, h (by omega)]

theorem Json.present?_object_congr {key : String}
    (h : Entries.get? key first = Entries.get? key second) :
    (object first).present? key = (object second).present? key := by
  rw [present?, present?, property?, property?, h]

theorem Field.resolve?_object_congr {field : Field}
    (h : ∀ key, field.Reads first key → Entries.get? key first = Entries.get? key second) :
    (Json.object first).resolve? field.key = (Json.object second).resolve? field.key := by
  have hpresent := Json.present?_object_congr (h field.key Reads.itself)
  have hindex : (leadingInteger? field.key).bind (Json.object first).elementAt? =
      (leadingInteger? field.key).bind (Json.object second).elementAt? := by
    refine Option.bind_congr fun index hinteger => ?_
    have hkeys : first.indexKey? index = second.indexKey? index :=
      Entries.indexKey?_congr fun hnegative => h "length" (Reads.length hinteger hnegative)
    rw [Json.elementAt?_object, Json.elementAt?_object, ← hkeys]
    exact Option.bind_congr fun key hkey => h key (Reads.index hinteger hkey)
  rw [Json.resolve?_object, Json.resolve?_object, hpresent, hindex]

end Lookup

/-! ## Items -/

section Items

variable {first second : Json}

theorem Field.contribution_congr {field : Field}
    (h : first.resolve? field.key = second.resolve? field.key) :
    field.contribution first = field.contribution second := by
  rw [Field.contribution, Field.contribution, h]

theorem Item.pairsContribution_congr {pairs : List (String × Selector)}
    (h : ∀ pair ∈ pairs, first.present? pair.1 = second.present? pair.1) :
    Item.pairsContribution pairs first = Item.pairsContribution pairs second := by
  induction pairs with
  | nil => rfl
  | cons pair rest ih =>
      rw [Item.pairsContribution_cons, Item.pairsContribution_cons, h pair List.mem_cons_self,
        ih fun other ho => h other (List.mem_cons_of_mem _ ho)]

theorem Selector.extract_fields_congr {items : List Item}
    (h : ∀ item ∈ items, item.contribution first = item.contribution second) :
    (Selector.fields items).extract first = (Selector.fields items).extract second := by
  rw [Selector.extract, Selector.extract, Item.contributions_eq_filterMap,
    Item.contributions_eq_filterMap, List.filterMap_congr h]

end Items

/-- **Footprint.** Extraction from two objects that agree on the keys that the items look up gives
one and the same result, whatever else they hold and in whatever order. -/
theorem extract_object_congr {items : List Item} {first second : Entries Json}
    (h : ∀ item ∈ items, ∀ key, item.Reads first key →
      Entries.get? key first = Entries.get? key second) :
    (Selector.fields items).extract (.object first) =
      (Selector.fields items).extract (.object second) := by
  refine Selector.extract_fields_congr fun item hi => ?_
  cases item with
  | field field =>
      exact Field.contribution_congr
        (Field.resolve?_object_congr fun key hkey => h _ hi key (Item.Reads.field hkey))
  | nested pairs =>
      exact Item.pairsContribution_congr fun pair hpair =>
        Json.present?_object_congr (h _ hi pair.1 (Item.Reads.nested hpair))

/-! Two objects that have little in common but what `-1` and the pair of `a` look up: the count of
three leads to the key `2`. -/

def threeThings : Entries Json :=
  [("length", .number (.whole ⟨3, by decide, by decide⟩)), ("1", .null), ("2", .bool true)]

def otherThings : Entries Json :=
  [("2", .bool true), ("b", .string "c"), ("length", .number (.whole ⟨3, by decide, by decide⟩))]

def lastThing : List Item := [.field (.name "-1"), .nested [("a", .fields [])]]

theorem extract_object_congr_lastThing :
    (∀ item ∈ lastThing, ∀ key, item.Reads threeThings key →
      Entries.get? key threeThings = Entries.get? key otherThings) ∧
    (Selector.fields lastThing).extract (.object threeThings) =
      (Selector.fields lastThing).extract (.object otherThings) ∧
    ((Selector.fields lastThing).extract (.object otherThings)).equal
      (.object [("-1", .bool true)]) = true := by
  have hinteger : leadingInteger? "-1" = some (-1) := by decide
  have hindex : threeThings.indexKey? (-1) = some "2" := by decide +kernel
  have h : ∀ item ∈ lastThing, ∀ key, item.Reads threeThings key →
      Entries.get? key threeThings = Entries.get? key otherThings := by
    intro item hi key hreads
    simp only [lastThing, List.mem_cons, List.not_mem_nil, or_false] at hi
    rcases hi with rfl | rfl
    · cases hreads with
      | field hfield =>
          cases hfield with
          | itself => rfl
          | length _ _ => rfl
          | index hread hkey =>
              obtain rfl := Option.some.inj (hinteger.symm.trans hread)
              obtain rfl := Option.some.inj (hindex.symm.trans hkey)
              rfl
    · cases hreads with
      | nested hpair =>
          obtain rfl := List.mem_singleton.1 hpair
          rfl
  exact ⟨h, extract_object_congr h, by decide +kernel⟩

end Pluck
