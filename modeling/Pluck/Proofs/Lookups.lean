import Pluck.Proofs.Walks

/-!
Where a lookup looks.

A key is looked up as it is and, if no value is found that counts, as an index (`resolveKey?_eq`).
An object is asked for an index under a single key (`Entries.indexKey?`), which for a negative index
depends on the value of `length`.
-/

namespace Pluck

/-- The key under which an object has its value at an index: the spelling of the index or, for a
negative one, of the number that it makes with the number under `length`. -/
def Entries.indexKey? (index : Int) (entries : Entries Json) : Option String :=
  if 0 ≤ index then some index.repr
  else
    match get? "length" entries with
    | some (.number length) => do
        let place ← (← length.toBinary64).add (← Binary64.ofInt index)
        some (Number.float place).key
    | _ => none

namespace Json

theorem resolveKey?_eq (input : Json) (key : String) :
    input.resolveKey? key =
      (input.present? key).or ((leadingInteger? key).bind input.elementAt?) := by
  unfold resolveKey? present?
  cases input.property? key with
  | none => rfl
  | some found => cases ht : found.isTruthy <;> simp [Option.filter, ht]

theorem present?_eq_some_iff {input value : Json} {key : String} :
    input.present? key = some value ↔ input.property? key = some value ∧ value.isTruthy = true :=
  Option.filter_eq_some_iff

/-- Only in arrays a key can have a meaning of its own. -/
theorem resolve?_eq_resolveKey? (input : Json) {key : String} (hlength : key ≠ "length")
    (hdash : key ≠ "-") : input.resolve? key = input.resolveKey? key := by
  cases input with
  | array elements => rw [resolve?, if_neg hlength, if_neg hdash]
  | _ => rfl

theorem resolve?_object (entries : Entries Json) (key : String) :
    (object entries).resolve? key =
      ((object entries).present? key).or
        ((leadingInteger? key).bind (object entries).elementAt?) :=
  resolveKey?_eq _ key

theorem elementAt?_object (entries : Entries Json) (index : Int) :
    (object entries).elementAt? index =
      (entries.indexKey? index).bind fun key => Entries.get? key entries := by
  by_cases hi : 0 ≤ index
  · simp [elementAt?, Entries.indexKey?, hi]
  · rw [elementAt?, Entries.indexKey?, if_neg hi, if_neg hi]
    generalize Entries.get? "length" entries = found
    cases found with
    | none => rfl
    | some length =>
        cases length with
        | number length => simp [Option.bind_assoc]
        | _ => rfl

end Json

theorem Selector.isTruthy_extract (selector : Selector) (input : Json) :
    (selector.extract input).isTruthy = true := by
  cases selector with
  | fields items => rfl
  | eachItem inner => cases input <;> rfl

theorem Field.contribution_eq_some_iff {field : Field} {input : Json} {written : String × Json} :
    field.contribution input = some written ↔
      ∃ value, input.resolve? field.key = some value ∧ value ≠ .null ∧
        written = (field.key, value) := by
  unfold contribution
  cases input.resolve? field.key with
  | none => simp
  | some value => cases value <;> simp [eq_comm]

/-- What a nested item writes comes from one of its pairs. -/
theorem Item.exists_of_pairsContribution {pairs : List (String × Selector)} {input : Json}
    {written : String × Json} (h : Item.pairsContribution pairs input = some written) :
    ∃ pair ∈ pairs, ∃ value, input.present? pair.1 = some value ∧
      written = (pair.1, pair.2.extract value) := by
  induction pairs with
  | nil => simp [Item.pairsContribution] at h
  | cons pair rest ih =>
      rw [Item.pairsContribution_cons, Option.or_eq_some_iff] at h
      rcases h with hlater | ⟨-, hpair⟩
      · obtain ⟨other, ho, hvalue⟩ := ih hlater
        exact ⟨other, List.mem_cons_of_mem _ ho, hvalue⟩
      · obtain ⟨value, hv, rfl⟩ := Option.map_eq_some_iff.1 hpair
        exact ⟨pair, List.mem_cons_self, value, hv, rfl⟩

end Pluck
