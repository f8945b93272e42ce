import Pluck.Proofs.Footprint
import Pluck.Proofs.Indexing

/-!
Values that count as false, and missing keys.

In an object without `length`, a value that counts as false can be removed and no selector will
notice, unless it is found once more: as an index. That takes a key that spells an index, and a value
that is not left out anyway, as null is (`extract_erase_iff`).
-/

namespace Pluck

/-- Without `length` an object is asked for an index only under keys that spell one. -/
theorem spellsIndex_of_indexKey? {entries : Entries Json}
    (hlength : Entries.get? "length" entries = none) {text key : String} {index : Int}
    (hinteger : leadingInteger? text = some index) (hkey : entries.indexKey? index = some key) :
    SpellsIndex key := by
  have hbound := natAbs_lt_of_leadingInteger? hinteger
  rw [Entries.indexKey?, hlength] at hkey
  split at hkey
  · obtain ⟨n, rfl⟩ := Int.eq_ofNat_of_zero_le ‹0 ≤ index›
    exact ⟨n, by omega, (Option.some.inj hkey).symm⟩
  · cases hkey

/-! ## An object with and without a value that counts as false -/

section Erase

variable {entries : Entries Json} {key : String} {value : Json}
  (hlength : Entries.get? "length" entries = none)
  (hvalue : Entries.get? key entries = some value)
  (hfalsy : value.isTruthy = false) (hunseen : value = .null ∨ ¬ SpellsIndex key)

include hlength in
theorem Entries.indexKey?_erase (index : Int) :
    (erase key entries).indexKey? index = entries.indexKey? index := by
  refine indexKey?_congr fun _ => ?_
  rw [get?_erase, hlength]
  exact ite_self none

include hvalue hfalsy in
theorem Json.present?_erase (k : String) :
    (object (Entries.erase key entries)).present? k = (object entries).present? k := by
  rw [present?, present?, property?, property?, Entries.get?_erase]
  by_cases hk : k = key
  · rw [if_pos hk, hk, hvalue, Option.filter_some, if_neg (by simp [hfalsy])]
    rfl
  · rw [if_neg hk]

include hlength hvalue hunseen in
/-- An index does not lead to the value, unless that is null. -/
theorem Json.elementAt?_erase {text : String} {index : Int}
    (hinteger : leadingInteger? text = some index) {x : Json} (hx : x ≠ .null) :
    (object (Entries.erase key entries)).elementAt? index = some x ↔
      (object entries).elementAt? index = some x := by
  rw [elementAt?_object, elementAt?_object, Entries.indexKey?_erase hlength,
    Option.bind_eq_some_iff, Option.bind_eq_some_iff]
  refine exists_congr fun k => and_congr_right fun hk => ?_
  rw [Entries.get?_erase]
  split
  · next hkey =>
      -- the erased key is the one that the index leads to, so it spells an index
      subst hkey
      rw [hvalue]
      constructor
      · intro h
        cases h
      · intro h
        rcases hunseen with hnull | hspell
        · exact absurd (Option.some.inj h ▸ hnull) hx
        · exact absurd (spellsIndex_of_indexKey? hlength hinteger hk) hspell
  · rfl

include hlength hvalue hfalsy hunseen

theorem Json.resolve?_erase (k : String) {x : Json} (hx : x ≠ .null) :
    (object (Entries.erase key entries)).resolve? k = some x ↔
      (object entries).resolve? k = some x := by
  have hindex : ((leadingInteger? k).bind (object (Entries.erase key entries)).elementAt? = some x ↔
      (leadingInteger? k).bind (object entries).elementAt? = some x) := by
    rw [Option.bind_eq_some_iff, Option.bind_eq_some_iff]
    exact exists_congr fun index => and_congr_right fun hinteger =>
      elementAt?_erase hlength hvalue hunseen hinteger hx
  rw [resolve?_object, resolve?_object, present?_erase hvalue hfalsy, Option.or_eq_some_iff,
    Option.or_eq_some_iff, hindex]

theorem Field.contribution_erase (field : Field) :
    field.contribution (.object (Entries.erase key entries)) =
      field.contribution (.object entries) := by
  refine Option.ext fun written => ?_
  rw [contribution_eq_some_iff, contribution_eq_some_iff]
  refine exists_congr fun x => and_congr_left fun ⟨hx, _⟩ => ?_
  exact Json.resolve?_erase hlength hvalue hfalsy hunseen field.key hx

theorem Selector.extract_erase (selector : Selector) :
    selector.extract (.object (Entries.erase key entries)) =
      selector.extract (.object entries) := by
  cases selector with
  | eachItem inner => rfl
  | fields items =>
      refine Selector.extract_fields_congr fun item _ => ?_
      cases item with
      | field field => exact Field.contribution_erase hlength hvalue hfalsy hunseen field
      | nested pairs =>
          exact Item.pairsContribution_congr fun pair _ =>
            Json.present?_erase hvalue hfalsy pair.1

end Erase

/-! ## Keys that spell an index -/

theorem exists_extract_erase_ne {entries : Entries Json} {key : String} {value : Json}
    (hvalue : Entries.get? key entries = some value) (hnull : value ≠ .null)
    (hspell : SpellsIndex key) :
    ∃ selector : Selector, selector.extract (.object entries) ≠
      selector.extract (.object (Entries.erase key entries)) := by
  obtain ⟨n, hn, rfl⟩ := hspell
  have hfound : (Field.name n.repr).contribution (.object entries) = some (n.repr, value) :=
    Field.contribution_eq_some_iff.2
      ⟨value, (Json.resolve?_repr hn (.object entries)).trans hvalue, hnull, rfl⟩
  have hgone : (Field.name n.repr).contribution
      (.object (Entries.erase n.repr entries)) = none := by
    rw [Field.contribution, Field.key, Json.resolve?_repr hn, Json.property?, Entries.get?_erase,
      if_pos rfl]
  refine ⟨.fields [.field (.name n.repr)], ?_⟩
  simp [Selector.extract, Item.contributions, Item.contribution, hfound, hgone, Entries.ofPairs,
    Entries.insertAll, Entries.insert]

/-- **Absence.** In an object without `length`, a value that counts as false reads the same as a
missing key exactly if it is null or its key spells no index. -/
theorem extract_erase_iff {entries : Entries Json} {key : String} {value : Json}
    (hlength : Entries.get? "length" entries = none)
    (hvalue : Entries.get? key entries = some value) (hfalsy : value.isTruthy = false) :
    (∀ selector : Selector, selector.extract (.object entries) =
      selector.extract (.object (Entries.erase key entries))) ↔
        value = .null ∨ ¬ SpellsIndex key := by
  constructor
  · intro hsame
    by_cases hnull : value = .null
    · exact Or.inl hnull
    · refine Or.inr fun hspell => ?_
      obtain ⟨selector, hne⟩ := exists_extract_erase_ne hvalue hnull hspell
      exact hne (hsame selector)
  · intro hunseen selector
    exact (Selector.extract_erase hlength hvalue hfalsy hunseen selector).symm

/-- The key is read as the index 5, but does not spell it. -/
def paddedIndex : Entries Json := [("05", .string ""), ("5", .bool false)]

theorem extract_erase_iff_paddedIndex :
    (∀ selector : Selector, selector.extract (.object paddedIndex) =
        selector.extract (.object [("5", .bool false)])) ∧
      ¬ ∀ selector : Selector, selector.extract (.object paddedIndex) =
        selector.extract (.object [("05", .string "")]) := by
  have hpadded : ¬ SpellsIndex "05" := by decide
  have hempty : Entries.get? "05" paddedIndex = some (.string "") := rfl
  have hfalse : Entries.get? "5" paddedIndex = some (.bool false) := rfl
  constructor
  · exact (extract_erase_iff rfl hempty rfl).2 (Or.inr hpadded)
  · intro hsame
    rcases (extract_erase_iff rfl hfalse rfl).1 hsame with hnull | hspell
    · cases hnull
    · exact hspell (by decide)

end Pluck
