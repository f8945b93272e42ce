import Pluck.Proofs.Lookups
import Pluck.Proofs.Overwriting

/-!
More data in an object.

If an object gets further entries, a lookup need not have the value that it had: a new key goes
before the index that the key is read as. But where there was a value other than null, there is one
still (`Entries.Within.resolve?`). So no key of a result is lost, if each nested item has one key at
most (`keys_extract_subset`); of two keys the later one would take the place of the other.
-/

namespace Pluck
namespace Entries

/-- Every key of the first entries has the same value in the second ones. -/
def Within (first second : Entries Json) : Prop :=
  ∀ key value, get? key first = some value → get? key second = some value

/-- Where no key is repeated it is enough that the entries are there. -/
theorem within_of_subset {first second : Entries Json} (hn : (keys second).Nodup)
    (h : first ⊆ second) : first.Within second :=
  fun _ _ hvalue => get?_of_mem hn (h (mem_of_get? hvalue))

namespace Within

variable {first second : Entries Json} (h : first.Within second)

include h

/-! ## Lookups -/

theorem present? {key : String} {value : Json}
    (hvalue : (Json.object first).present? key = some value) :
    (Json.object second).present? key = some value := by
  obtain ⟨hproperty, htruthy⟩ := Json.present?_eq_some_iff.1 hvalue
  exact Json.present?_eq_some_iff.2 ⟨h key value hproperty, htruthy⟩

theorem indexKey? {index : Int} {key : String} (hkey : first.indexKey? index = some key) :
    second.indexKey? index = some key := by
  unfold Entries.indexKey? at hkey ⊢
  split at hkey
  · next hindex => rwa [if_pos hindex]
  · next hindex =>
      split at hkey
      · next length hlength => rwa [if_neg hindex, h "length" (.number length) hlength]
      · cases hkey

theorem elementAt? {index : Int} {value : Json}
    (hvalue : (Json.object first).elementAt? index = some value) :
    (Json.object second).elementAt? index = some value := by
  rw [Json.elementAt?_object, Option.bind_eq_some_iff] at hvalue ⊢
  obtain ⟨key, hkey, hfound⟩ := hvalue
  exact ⟨key, h.indexKey? hkey, h key value hfound⟩

/-- A value that counts may come before the one that there was. -/
theorem resolve? {key : String} {value : Json}
    (hvalue : (Json.object first).resolve? key = some value) (hnull : value ≠ .null) :
    ∃ other, (Json.object second).resolve? key = some other ∧ other ≠ .null := by
  rw [Json.resolve?_object, Option.or_eq_some_iff] at hvalue
  rw [Json.resolve?_object]
  rcases hvalue with hpresent | ⟨-, hindex⟩
  · exact ⟨value, Option.or_eq_some_iff.2 (Or.inl (h.present? hpresent)), hnull⟩
  · obtain ⟨index, hinteger, hfound⟩ := Option.bind_eq_some_iff.1 hindex
    cases hpresent : (Json.object second).present? key with
    | none =>
        refine ⟨value, ?_, hnull⟩
        rw [hinteger, Option.none_or]
        exact h.elementAt? hfound
    | some other =>
        have htruthy := (Json.present?_eq_some_iff.1 hpresent).2
        refine ⟨other, rfl, ?_⟩
        rintro rfl
        cases htruthy

/-! ## Items -/

theorem writes_field {field : Field} {key : String}
    (hwrites : (Item.field field).Writes (.object first) key) :
    (Item.field field).Writes (.object second) key := by
  obtain ⟨written, hc⟩ := Item.writes_iff.1 hwrites
  obtain ⟨value, hvalue, hnull, hkey⟩ := Field.contribution_eq_some_iff.1 hc
  obtain ⟨other, hother, hnull'⟩ := h.resolve? hvalue hnull
  obtain ⟨rfl, -⟩ := Prod.mk.inj hkey
  exact Item.writes_iff.2 ⟨other, Field.contribution_eq_some_iff.2 ⟨other, hother, hnull', rfl⟩⟩

theorem writes_nested {pairs : List (String × Selector)} (hsingle : pairs.length ≤ 1)
    {key : String} (hwrites : (Item.nested pairs).Writes (.object first) key) :
    (Item.nested pairs).Writes (.object second) key := by
  obtain ⟨written, hc⟩ := Item.writes_iff.1 hwrites
  obtain ⟨pair, hpair, value, hvalue, hwritten⟩ := Item.exists_of_pairsContribution hc
  obtain ⟨rfl, -⟩ := Prod.mk.inj hwritten
  -- no other pair can go before this one
  have hpairs : pairs = [pair] := by
    match pairs, hsingle, hpair with
    | [other], _, hpair => rw [List.mem_singleton.1 hpair]
  have hsecond : Item.pairsContribution pairs (.object second) =
      some (pair.1, pair.2.extract value) := by
    rw [hpairs, Item.pairsContribution_cons, h.present? hvalue]
    rfl
  exact Item.writes_iff.2 ⟨_, hsecond⟩

end Within
end Entries

/-- **Growth.** If no nested item has more than one key, further entries in the input take no key
from the result. -/
theorem keys_extract_subset {items : List Item}
    (hsingle : ∀ pairs, .nested pairs ∈ items → pairs.length ≤ 1)
    {first second : Entries Json} (h : first.Within second) :
    ∃ xs ys, (Selector.fields items).extract (.object first) = .object xs ∧
      (Selector.fields items).extract (.object second) = .object ys ∧
      Entries.keys xs ⊆ Entries.keys ys := by
  have hfirst := gathers_ofPairs_contributions items (.object first)
  have hsecond := gathers_ofPairs_contributions items (.object second)
  refine ⟨_, _, rfl, rfl, fun key hkey => ?_⟩
  obtain ⟨item, hitem, hwrites⟩ := (hfirst.written key).1 hkey
  refine (hsecond.written key).2 ⟨item, hitem, ?_⟩
  cases item with
  | field field => exact h.writes_field hwrites
  | nested pairs => exact h.writes_nested (hsingle pairs hitem) hwrites

/-! Of the further entries one goes before the index that `1x` is read as, and the other one lets `-1`
count back. -/

def fewThings : Entries Json := [("1", .string "a"), ("b", .array [])]

def moreThings : Entries Json :=
  [("1x", .bool true), ("length", .number (.whole ⟨2, by decide, by decide⟩)), ("b", .array []),
    ("1", .string "a")]

def indexedThings : List Item :=
  [.field (.name "1x"), .field (.name "-1"), .nested [("b", .fields [])]]

theorem keys_extract_subset_indexedThings :
    fewThings ⊆ moreThings ∧
    ∃ xs ys, (Selector.fields indexedThings).extract (.object fewThings) = .object xs ∧
      (Selector.fields indexedThings).extract (.object moreThings) = .object ys ∧
      Entries.keys xs ⊆ Entries.keys ys ∧
      Entries.keys xs = ["1x", "b"] ∧ Entries.keys ys = ["1x", "-1", "b"] := by
  have hmore : fewThings ⊆ moreThings := by simp [fewThings, moreThings]
  have hsingle : ∀ pairs, .nested pairs ∈ indexedThings → pairs.length ≤ 1 := by
    simp [indexedThings]
  obtain ⟨xs, ys, hx, hy, hsubset⟩ :=
    keys_extract_subset hsingle (Entries.within_of_subset (by decide) hmore)
  refine ⟨hmore, xs, ys, hx, hy, hsubset, ?_, ?_⟩
  · rw [← Json.object.inj hx]
    decide +kernel
  · rw [← Json.object.inj hy]
    decide +kernel

/-- Of two keys in one item the later one counts as soon as it is there. -/
example :
    let items := [Item.nested [("a", .fields []), ("b", .fields [])]]
    Entries.keys (Item.contributions items (.object [("a", .array [])])) = ["a"] ∧
      Entries.keys (Item.contributions items (.object [("a", .array []), ("b", .array [])])) =
        ["b"] := by
  decide +kernel

end Pluck
