import Pluck.Proofs.Indexing
import Pluck.Proofs.Omissions

/-!
What nested items find in values that are no containers.

Null, booleans and numbers have nothing under any key, so nested items add nothing there. A string
has its count and its characters under keys of their own (`Json.StringKey`), and a nested item with
such a key goes into them. `extract_nested_scalar` says when nothing at all is found.
-/

namespace Pluck

/-- The keys under which a string has something that counts: the name of its count, if it has any
characters, and the spellings of their places. -/
inductive Json.StringKey (text : String) : String → Prop
  | count (hpos : 0 < text.length) (hfits : text.length < 2 ^ 64) : StringKey text "length"
  | place {place : Nat} (h : place < text.length) (hfits : place < 2 ^ 64) :
      StringKey text place.repr

/-! ## Keys of strings -/

namespace Json

theorem isTruthy_count_iff {n : Nat} : (count n).isTruthy = true ↔ 0 < n ∧ n < 2 ^ 64 := by
  unfold count Whole.ofInt?
  split
  · next hfits => simp [isTruthy, Number.isZero]; omega
  · next hlarge => simp [isTruthy, Number.isZero]; omega

theorem exists_present?_string_iff {text key : String} :
    (∃ value, (string text).present? key = some value) ↔ StringKey text key := by
  have hproperty : (string text).property? key = if key = "length" then some (count text.length)
      else (canonicalIndex? key).bind fun place => (characters text)[place]? := by
    have hrow : (string text).row? = some (characters text) := rfl
    rw [property?_row hrow, length_characters]
  constructor
  · rintro ⟨value, hvalue⟩
    obtain ⟨hfound, htruthy⟩ := present?_eq_some_iff.1 hvalue
    rw [hproperty] at hfound
    by_cases hkey : key = "length"
    · rw [if_pos hkey] at hfound
      cases hfound
      obtain ⟨hpos, hfits⟩ := isTruthy_count_iff.1 htruthy
      rw [hkey]
      exact .count hpos hfits
    · rw [if_neg hkey] at hfound
      obtain ⟨place, hplace, hcharacter⟩ := Option.bind_eq_some_iff.1 hfound
      obtain ⟨hfits, rfl⟩ := canonicalIndex?_eq_some_iff.1 hplace
      have hlt := (List.getElem?_eq_some_iff.1 hcharacter).1
      rw [length_characters] at hlt
      exact .place hlt hfits
  · rintro (⟨hpos, hfits⟩ | ⟨hlt, hfits⟩)
    · rw [if_pos rfl] at hproperty
      exact ⟨_, present?_eq_some_iff.2 ⟨hproperty, isTruthy_count_iff.2 ⟨hpos, hfits⟩⟩⟩
    · next place =>
        have hplace : canonicalIndex? place.repr = some place :=
          canonicalIndex?_eq_some_iff.2 ⟨hfits, rfl⟩
        have hkey : place.repr ≠ "length" := by
          intro hsame
          rw [hsame] at hplace
          cases hplace
        rw [if_neg hkey, hplace, Option.bind_some, ← charAt?_eq, charAt?,
          List.getElem?_eq_getElem (by rwa [String.length_toList])] at hproperty
        refine ⟨_, present?_eq_some_iff.2 ⟨hproperty, ?_⟩⟩
        simp [isTruthy]

end Json

/-! ## Results without entries -/

theorem Entries.ofPairs_eq_nil_iff {α : Type} {pairs : List (String × α)} :
    Entries.ofPairs pairs = [] ↔ pairs = [] := by
  constructor
  · intro h
    rw [List.eq_nil_iff_forall_not_mem]
    intro pair hpair
    have hkey : pair.1 ∈ keys (ofPairs pairs) :=
      (mem_keys_ofPairs _ _).2 (List.mem_map_of_mem hpair)
    rw [h] at hkey
    cases hkey
  · rintro rfl
    rfl

theorem Item.pairsContribution_eq_none_iff_forall {pairs : List (String × Selector)}
    {input : Json} :
    Item.pairsContribution pairs input = none ↔ ∀ pair ∈ pairs, input.present? pair.1 = none := by
  rw [Item.pairsContribution_eq_none_iff]
  simp [Item.chosen?, List.findSome?_eq_none_iff]

theorem Selector.extract_nested_eq_empty_iff {nests : List (List (String × Selector))}
    {input : Json} :
    (Selector.fields (nests.map .nested)).extract input = .object [] ↔
      ∀ pairs ∈ nests, ∀ pair ∈ pairs, input.present? pair.1 = none := by
  rw [Selector.extract, Json.object.injEq, Entries.ofPairs_eq_nil_iff,
    Item.contributions_eq_filterMap, List.filterMap_eq_nil_iff, List.forall_mem_map]
  simp only [Item.contribution, Item.pairsContribution_eq_none_iff_forall]

/-- **Values that are no containers.** A list of nested items makes an empty object of null, of a
boolean and of a number. Of a string it does so exactly if no nested item names the count or the
place of a character. -/
theorem extract_nested_scalar (nests : List (List (String × Selector))) :
    let selector := Selector.fields (nests.map .nested)
    (selector.extract .null = .object [] ∧ (∀ b, selector.extract (.bool b) = .object []) ∧
      ∀ n, selector.extract (.number n) = .object []) ∧
    ∀ text, selector.extract (.string text) = .object [] ↔
      ∀ pairs ∈ nests, ∀ pair ∈ pairs, ¬ Json.StringKey text pair.1 := by
  intro selector
  refine ⟨⟨?_, fun b => ?_, fun n => ?_⟩, fun text => ?_⟩
  · exact Selector.extract_nested_eq_empty_iff.2 fun _ _ _ _ => rfl
  · exact Selector.extract_nested_eq_empty_iff.2 fun _ _ _ _ => rfl
  · exact Selector.extract_nested_eq_empty_iff.2 fun _ _ _ _ => rfl
  · rw [Selector.extract_nested_eq_empty_iff]
    simp only [← Json.exists_present?_string_iff, Option.eq_none_iff_forall_ne_some, not_exists, Ne]

/-- A string has a count, so not every value that is no container is passed over. -/
theorem not_forall_extract_nested_scalar :
    ¬ ∀ (nests : List (List (String × Selector))) (input : Json),
      (∀ elements, input ≠ .array elements) → (∀ entries, input ≠ .object entries) →
        (Selector.fields (nests.map .nested)).extract input = .object [] := by
  intro h
  have hresult :
      (Selector.fields ([[("length", .fields [.field (.name "x")])]].map .nested)).extract
        (.string "ab") = .object [("length", .object [])] := by rfl
  have hempty := h [[("length", .fields [.field (.name "x")])]] (.string "ab") nofun nofun
  rw [hresult] at hempty
  cases hempty

end Pluck
