import Mathlib
import Pluck.Proofs.WholeFloats
import Pluck.Proofs.Walks

/-!
Spellings of integers in selectors.

A selector may ask for an integer by its decimal spelling, by the whole number, or by a
floating-point number of the same value, of which zero has two (`Field.Spells`). All of these are one
key, and different integers have different keys (`Field.Spells.key_eq_iff`). Extraction depends on the
keys of fields only, so at any depth one spelling may take the place of another
(`extract_eq_of_respells`).
-/

namespace Pluck

/-! ## Fields -/

/-- The field asks for the integer: by its decimal spelling, by the whole number, or by a
floating-point number that is made of as many ones. -/
inductive Field.Spells (n : Int) : Field → Prop
  | name : Spells n (.name n.repr)
  | whole {m : Whole} (h : m.val = n) : Spells n (.index (.whole m))
  | float {x : Binary64} (h : x.signedUnits = n * Binary64.one) : Spells n (.index (.float x))

/-- The fields are the same, or spell the same integer in two ways. The bound is that of the whole
numbers which floating-point numbers are spelled like; it is beyond 64 bits. -/
def Field.Respells (f g : Field) : Prop :=
  f = g ∨ ∃ n : Int, n.natAbs < 10 ^ 21 ∧ f.Spells n ∧ g.Spells n

theorem Field.Spells.key_eq {n : Int} (hn : n.natAbs < 10 ^ 21) {field : Field}
    (h : field.Spells n) : field.key = n.repr := by
  cases h with
  | name => rfl
  | @whole m h =>
      have hint : (Number.whole m).toInt? = some n := congrArg some h
      exact Number.key_of_toInt? hint hn
  | @float x h =>
      have hint : (Number.float x).toInt? = some n := Binary64.toInt?_eq_some_iff.2 h
      exact Number.key_of_toInt? hint hn

/-- Fields that ask for integers have the same key just if the integers are the same. -/
theorem Field.Spells.key_eq_iff {m n : Int} (hm : m.natAbs < 10 ^ 21) (hn : n.natAbs < 10 ^ 21)
    {f g : Field} (hf : f.Spells m) (hg : g.Spells n) : f.key = g.key ↔ m = n := by
  rw [hf.key_eq hm, hg.key_eq hn, Int.repr_inj]

theorem Field.Respells.key_eq {f g : Field} (h : f.Respells g) : f.key = g.key := by
  rcases h with rfl | ⟨n, hn, hf, hg⟩
  · rfl
  · rw [hf.key_eq hn, hg.key_eq hn]

theorem Field.Respells.contribution {f g : Field} (h : f.Respells g) (input : Json) :
    f.contribution input = g.contribution input := by
  rw [Field.contribution, Field.contribution, h.key_eq]

/-! ## Selectors -/

mutual

/-- The selectors are built in the same way, and their fields, each at its place, are the same or
spell the same integer. -/
inductive Selector.Respells : Selector → Selector → Prop
  | fields {xs ys : List Item} (h : List.Forall₂ Item.Respells xs ys) :
      Selector.Respells (.fields xs) (.fields ys)
  | eachItem {s t : Selector} (h : s.Respells t) : Selector.Respells (.eachItem s) (.eachItem t)

inductive Item.Respells : Item → Item → Prop
  | field {f g : Field} (h : f.Respells g) : Item.Respells (.field f) (.field g)
  | nested {ps qs : List (String × Selector)} (h : List.Forall₂ Item.PairRespells ps qs) :
      Item.Respells (.nested ps) (.nested qs)

/-- The key of a pair stays as it is. -/
inductive Item.PairRespells : String × Selector → String × Selector → Prop
  | under {key : String} {s t : Selector} (h : s.Respells t) :
      Item.PairRespells (key, s) (key, t)

end

/-- With its fields spelled in other ways the selector extracts the same. -/
def Selector.IgnoresSpelling (s : Selector) : Prop :=
  ∀ t, s.Respells t → ∀ input, s.extract input = t.extract input

theorem Item.pairsContribution_of_respells {ps qs : List (String × Selector)}
    (h : List.Forall₂ Item.PairRespells ps qs) (hps : ∀ pair ∈ ps, pair.2.IgnoresSpelling)
    (input : Json) : Item.pairsContribution ps input = Item.pairsContribution qs input := by
  induction h with
  | nil => rfl
  | cons hpair _ ih =>
      obtain ⟨hhead, hrest⟩ := List.forall_mem_cons.1 hps
      cases hpair with
      | @under key s t hselector =>
          have hextract : ∀ value, s.extract value = t.extract value := hhead t hselector
          rw [Item.pairsContribution_cons, Item.pairsContribution_cons, ih hrest]
          simp only [hextract]

theorem Item.contribution_of_respells {x y : Item} (h : x.Respells y)
    (hx : ∀ pairs, x = .nested pairs → ∀ pair ∈ pairs, pair.2.IgnoresSpelling) (input : Json) :
    x.contribution input = y.contribution input := by
  cases h with
  | field h => exact h.contribution input
  | nested h => exact Item.pairsContribution_of_respells h (hx _ rfl) input

theorem Item.contributions_of_respells {xs ys : List Item} (h : List.Forall₂ Item.Respells xs ys)
    (hxs : ∀ pairs, .nested pairs ∈ xs → ∀ pair ∈ pairs, pair.2.IgnoresSpelling) (input : Json) :
    Item.contributions xs input = Item.contributions ys input := by
  rw [Item.contributions_eq_filterMap, Item.contributions_eq_filterMap]
  induction h with
  | nil => rfl
  | @cons x y xs ys hitem _ ih =>
      have hhead : x.contribution input = y.contribution input := by
        refine Item.contribution_of_respells hitem (fun pairs hx => hxs pairs ?_) input
        rw [hx]
        exact List.mem_cons_self
      have htail := ih fun pairs hp => hxs pairs (List.mem_cons_of_mem _ hp)
      rw [List.filterMap_cons, List.filterMap_cons, hhead, htail]

theorem Selector.ignoresSpelling (s : Selector) : s.IgnoresSpelling := by
  induction s using Selector.induction with
  | fields items ih =>
      rintro _ ⟨hitems⟩ input
      rw [Selector.extract, Selector.extract, Item.contributions_of_respells hitems ih]
  | eachItem inner ih =>
      intro t h input
      cases h with
      | @eachItem _ t hinner =>
          have helement : ∀ element, inner.extract element = t.extract element := ih t hinner
          cases input with
          | array elements => simp only [Selector.extract, helement]
          | _ => rfl

/-- Fields may also stay as they are, at any place. -/
theorem Selector.Respells.refl (s : Selector) : s.Respells s := by
  induction s using Selector.induction with
  | fields items ih =>
      refine .fields (List.forall₂_same.2 fun item hi => ?_)
      cases item with
      | field field => exact .field (Or.inl rfl)
      | nested pairs =>
          exact .nested (List.forall₂_same.2 fun pair hp => .under (ih pairs hi pair hp))
  | eachItem inner ih => exact .eachItem ih

/-- **Spelling.** Selectors that differ in how they spell integers extract the same from every
input. Whatever the spellings, different integers are different keys. -/
theorem extract_eq_of_respells :
    (∀ s t : Selector, s.Respells t → ∀ input, s.extract input = t.extract input) ∧
      ∀ (m n : Int) (f g : Field), m.natAbs < 10 ^ 21 → n.natAbs < 10 ^ 21 →
        f.Spells m → g.Spells n → (f.key = g.key ↔ m = n) := by
  constructor
  · exact Selector.ignoresSpelling
  · intro m n f g hm hn hf hg
    exact Field.Spells.key_eq_iff hm hn hf hg

/-! The least whole number, zero and twelve, first in their own digits and then as a floating-point
number, as negative zero and as a text. -/

def leastWhole : Whole := ⟨-2 ^ 63, by decide, by decide⟩

def leastFloat : Binary64 := ⟨true, 1086 * 2 ^ 52, by decide⟩

def plainSpellings : Selector :=
  .fields [.field (.index (.whole leastWhole)),
    .nested [("rows", .eachItem (.fields [.field (.name "0"),
      .field (.index (.whole ⟨12, by decide, by decide⟩))])), ("none", .fields [])]]

def otherSpellings : Selector :=
  .fields [.field (.index (.float leastFloat)),
    .nested [("rows", .eachItem (.fields [.field (.index (.float (Binary64.zero true))),
      .field (.name "12")])), ("none", .fields [])]]

def spelledInput : Json :=
  .object [("-9223372036854775808", .bool true),
    ("rows", .array [.string "a", .object [("12", .bool false), ("-0.0", .string "b")]])]

theorem spells_leastFloat : (Field.index (.float leastFloat)).Spells (-2 ^ 63) := by
  refine .float ?_
  decide +kernel

theorem spells_negativeZero : (Field.index (.float (Binary64.zero true))).Spells 0 := by
  refine .float ?_
  decide +kernel

theorem extract_eq_of_respells_otherSpellings :
    plainSpellings.Respells otherSpellings ∧
      otherSpellings.extract spelledInput =
        .object [("-9223372036854775808", .bool true),
          ("rows", .array [.object [("0", .string "a")], .object [("12", .bool false)]])] ∧
      (Field.index (.float leastFloat)).key ≠ (Field.name "0").key := by
  have hleast : (Field.index (.whole leastWhole)).Respells (.index (.float leastFloat)) :=
    Or.inr ⟨-2 ^ 63, by decide, .whole rfl, spells_leastFloat⟩
  have hzero : (Field.name "0").Respells (.index (.float (Binary64.zero true))) :=
    Or.inr ⟨0, by decide, .name, spells_negativeZero⟩
  have htwelve : (Field.index (.whole ⟨12, by decide, by decide⟩)).Respells (.name "12") :=
    Or.inr ⟨12, by decide, .whole rfl, .name⟩
  have hrows : Selector.Respells _ _ :=
    .fields (.cons (.field hzero) (.cons (.field htwelve) .nil))
  have h : plainSpellings.Respells otherSpellings :=
    .fields (.cons (.field hleast) (.cons
      (.nested (.cons (.under (.eachItem hrows)) (.cons (.under (.refl _)) .nil))) .nil))
  refine ⟨h, ?_, ?_⟩
  · rw [← extract_eq_of_respells.1 _ _ h]
    rfl
  · have hkey := extract_eq_of_respells.2 (-2 ^ 63) 0 _ (.name "0") (by decide) (by decide)
      spells_leastFloat .name
    exact fun e => absurd (hkey.1 e) (by decide)

end Pluck
