import Pluck.Proofs.Integers
import Pluck.Proofs.Lookups
import Pluck.Proofs.WholeFloats

/-!
What a key means as an index.

* In arrays and strings a key is read as an index and nothing else: what is found under the key as it
  is, the index finds as well (`resolve?_eq_atIndex?`).
* The spelling of an index has its value in every input, whatever that counts as
  (`resolve?_eq_property?`).
* In an object a negative index counts back from the number under `length`, and this is done without
  rounding (`resolve?_object_negative`).
-/

namespace Pluck

/-! ## Indices of objects -/

section Negative

variable {entries : Entries Json} {index : Int} (hnegative : index < 0)

include hnegative

/-- The number under `length` and the index are added without rounding. -/
theorem Entries.indexKey?_of_length (hlow : -2 ^ 53 ≤ index) {length : Number} {n : Int}
    (hlength : get? "length" entries = some (.number length)) (hint : length.toInt? = some n)
    (hn : 0 ≤ n) (hsmall : n ≤ 2 ^ 53) :
    entries.indexKey? index = some (n + index).repr := by
  obtain ⟨x, hx, hxint⟩ := Number.exists_toBinary64 hint (by omega)
  obtain ⟨y, hy, hyint⟩ := Binary64.exists_ofInt (show index.natAbs ≤ 2 ^ 53 by omega)
  obtain ⟨z, hz, hzint⟩ := Binary64.exists_add hxint hyint (by omega)
  have hkey : (Number.float z).key = (n + index).repr := Number.key_of_toInt? hzint (by omega)
  rw [indexKey?, if_neg (by omega), hlength]
  simp [hx, hy, hz, hkey]

theorem Entries.indexKey?_of_no_length
    (hlength : ∀ length, get? "length" entries ≠ some (.number length)) :
    entries.indexKey? index = none := by
  rw [indexKey?, if_neg (by omega)]
  split
  · next length hfound => exact absurd hfound (hlength length)
  · rfl

end Negative

/-! ## Indices of lists -/

/-- The element at an index, which counts from the front or, below zero, back from the end. -/
def atIndex? {α : Type} (elements : List α) (index : Int) : Option α :=
  if 0 ≤ index ∧ index < elements.length then elements[index.toNat]?
  else if -elements.length ≤ index ∧ index < 0 then elements[(elements.length + index).toNat]?
  else none

theorem position?_bind {α : Type} (elements : List α) (index : Int) :
    ((position? elements.length index).bind fun place => elements[place]?) =
      atIndex? elements index := by
  unfold position? atIndex?
  by_cases hnegative : index < 0
  · by_cases hlow : -(elements.length : Int) ≤ index
    · have hplace : 0 ≤ (elements.length : Int) + index := by omega
      simp [hnegative, hlow, hplace, Int.not_le.2 hnegative]
    · have hplace : ¬ 0 ≤ (elements.length : Int) + index := by omega
      simp [hnegative, hlow, hplace, Int.not_le.2 hnegative]
  · have hindex : 0 ≤ index := by omega
    by_cases hhigh : index < elements.length
    · simp [hnegative, hindex, hhigh]
    · -- past the end there is no element
      simp [hnegative, hindex, hhigh]

theorem atIndex?_natCast {α : Type} (elements : List α) (place : Nat) :
    atIndex? elements place = elements[place]? := by
  have hplace : ¬ (place : Int) < 0 := by omega
  rw [← position?_bind]
  simp [position?, hplace]

theorem canonicalIndex?_eq_some_iff {key : String} {place : Nat} :
    canonicalIndex? key = some place ↔ place < 2 ^ 64 ∧ key = place.repr := by
  unfold canonicalIndex?
  constructor
  · intro h
    simp only [Option.ite_none_right_eq_some, Option.some.injEq] at h
    obtain ⟨⟨hbound, hkey⟩, rfl⟩ := h
    exact ⟨hbound, hkey.symm⟩
  · rintro ⟨hbound, rfl⟩
    simp only [ofDigitChars_repr]
    exact if_pos ⟨hbound, trivial⟩

namespace Json

/-- The characters of a text, each one a string. -/
def characters (text : String) : List Json := text.toList.map fun c => .string (String.ofList [c])

/-- What a value holds in a row: the elements of an array or the characters of a string. -/
def row? : Json → Option (List Json)
  | .array elements => some elements
  | .string text => some (characters text)
  | _ => none

theorem length_characters (text : String) : (characters text).length = text.length := by
  rw [characters, List.length_map, String.length_toList]

theorem charAt?_eq (text : String) (place : Nat) : charAt? text place = (characters text)[place]? :=
  List.getElem?_map.symm

/-! ## Arrays and strings -/

section Row

variable {input : Json} {row : List Json} (hrow : input.row? = some row)

include hrow

theorem property?_row (key : String) :
    input.property? key =
      if key = "length" then some (count row.length)
      else (canonicalIndex? key).bind fun place => row[place]? := by
  cases input with
  | array elements =>
      obtain rfl := Option.some.inj hrow
      rfl
  | string text =>
      obtain rfl := Option.some.inj hrow
      simp only [property?, length_characters, ← charAt?_eq]
  | null | bool | number | object => cases hrow

theorem elementAt?_row (index : Int) : input.elementAt? index = atIndex? row index := by
  rw [← position?_bind]
  cases input with
  | array elements =>
      obtain rfl := Option.some.inj hrow
      rfl
  | string text =>
      obtain rfl := Option.some.inj hrow
      simp only [elementAt?, length_characters, ← charAt?_eq]
  | null | bool | number | object => cases hrow

/-- A value that is found under the key as it is stands at the index that the key is read as. -/
theorem resolveKey?_row (hlength : row.length < 2 ^ 63) {key : String} (hkey : key ≠ "length") :
    input.resolveKey? key = (leadingInteger? key).bind (atIndex? row) := by
  have hindex : (leadingInteger? key).bind input.elementAt? =
      (leadingInteger? key).bind (atIndex? row) :=
    Option.bind_congr fun index _ => elementAt?_row hrow index
  rw [resolveKey?_eq, hindex]
  cases hpresent : input.present? key with
  | none => rfl
  | some value =>
      have hproperty := (present?_eq_some_iff.1 hpresent).1
      rw [property?_row hrow, if_neg hkey] at hproperty
      obtain ⟨place, hplace, hvalue⟩ := Option.bind_eq_some_iff.1 hproperty
      obtain ⟨-, rfl⟩ := canonicalIndex?_eq_some_iff.1 hplace
      have hbound : place < 2 ^ 63 :=
        Nat.lt_trans (List.getElem?_eq_some_iff.1 hvalue).1 hlength
      rw [leadingInteger?_repr hbound, Option.bind_some, atIndex?_natCast, hvalue]
      rfl

end Row

theorem count_eq {n : Nat} (h : n < 2 ^ 63) :
    count n = .number (.whole ⟨n, by omega, by omega⟩) := by
  have hfits : -2 ^ 63 ≤ (n : Int) ∧ (n : Int) < 2 ^ 64 := by omega
  rw [count, Whole.ofInt?, dif_pos hfits]
  rfl

/-- The counted characters of a string are there only if there are any. -/
theorem resolveKey?_string_length {text : String} (h : text.length < 2 ^ 63) :
    (string text).resolveKey? "length" =
      if text.length = 0 then none
      else some (.number (.whole ⟨text.length, by omega, by omega⟩)) := by
  have hinteger : leadingInteger? "length" = none := by decide
  have hcount : (string text).property? "length" = some (count text.length) := rfl
  rw [resolveKey?_eq, hinteger, present?, hcount, count_eq h]
  by_cases hempty : text.length = 0 <;> simp [hempty, isTruthy, Number.isZero]

/-- **Arrays and strings.** A key is read as an index, but for the names of the count and of the last
element. Of a string the count is there if it is not zero, and there is no last character by name. -/
theorem resolve?_eq_atIndex? :
    (∀ (elements : List Json) (key : String) (h : elements.length < 2 ^ 63),
      (array elements).resolve? key =
        if key = "length" then some (.number (.whole ⟨elements.length, by omega, by omega⟩))
        else if key = "-" then elements.getLast?
        else (leadingInteger? key).bind (atIndex? elements)) ∧
    ∀ (text key : String) (h : text.length < 2 ^ 63),
      (string text).resolve? key =
        if key = "length" then
          if text.length = 0 then none
          else some (.number (.whole ⟨text.length, by omega, by omega⟩))
        else if key = "-" then none
        else (leadingInteger? key).bind (atIndex? (characters text)) := by
  constructor
  · intro elements key h
    rw [resolve?, count_eq h]
    by_cases hkey : key = "length"
    · rw [if_pos hkey, if_pos hkey]
    · rw [if_neg hkey, if_neg hkey, resolveKey?_row rfl h hkey]
  · intro text key h
    have hlength : (characters text).length < 2 ^ 63 := by rwa [length_characters]
    change (string text).resolveKey? key = _
    by_cases hkey : key = "length"
    · rw [if_pos hkey, hkey, resolveKey?_string_length h]
    · rw [if_neg hkey, resolveKey?_row rfl hlength hkey]
      by_cases hdash : key = "-"
      · have hinteger : leadingInteger? "-" = none := by decide
        rw [if_pos hdash, hdash, hinteger]
        rfl
      · rw [if_neg hdash]

/-- The first element counts as false, and the keys lead to it from both ends. -/
theorem resolve?_eq_atIndex?_falseFirst :
    (array [.bool false, .null]).resolve? "-2nd" = some (.bool false) ∧
      (array [.bool false, .null]).resolve? " 0x0" = some (.bool false) ∧
      (array [.bool false, .null]).resolve? "-3" = none ∧
      (string "añ").resolve? "-1" = some (.string "ñ") := by
  refine ⟨?_, ?_, ?_, ?_⟩
  · exact resolve?_eq_atIndex?.1 _ _ (by decide)
  · exact resolve?_eq_atIndex?.1 _ _ (by decide)
  · exact resolve?_eq_atIndex?.1 _ _ (by decide)
  · exact resolve?_eq_atIndex?.2 _ _ (by decide)

/-! ## Spellings of indices -/

theorem repr_ne {n : Nat} (hn : n < 2 ^ 63) {key : String} (hkey : leadingInteger? key = none) :
    n.repr ≠ key := by
  rintro rfl
  rw [leadingInteger?_repr hn] at hkey
  cases hkey

/-- The index leads to the value under its spelling. -/
theorem elementAt?_natCast {n : Nat} (hn : n < 2 ^ 63) (input : Json) :
    input.elementAt? n = input.property? n.repr := by
  have hrow : ∀ {row : List Json}, input.row? = some row →
      input.elementAt? n = input.property? n.repr := by
    intro row hrow
    have hplace : canonicalIndex? n.repr = some n :=
      canonicalIndex?_eq_some_iff.2 ⟨by omega, rfl⟩
    rw [elementAt?_row hrow, property?_row hrow, if_neg (repr_ne hn (by decide)), hplace,
      atIndex?_natCast]
    rfl
  cases input with
  | object entries =>
      have hkey : Entries.indexKey? n entries = some n.repr := if_pos (by omega)
      rw [elementAt?_object, hkey]
      rfl
  | array elements => exact hrow rfl
  | string text => exact hrow rfl
  | null | bool | number => rfl

theorem resolve?_repr {n : Nat} (hn : n < 2 ^ 63) (input : Json) :
    input.resolve? n.repr = input.property? n.repr := by
  have hlength : n.repr ≠ "length" := repr_ne hn (by decide)
  have hdash : n.repr ≠ "-" := repr_ne hn (by decide)
  rw [resolve?_eq_resolveKey? input hlength hdash, resolveKey?_eq, leadingInteger?_repr hn,
    Option.bind_some, elementAt?_natCast hn, present?]
  cases input.property? n.repr with
  | none => rfl
  | some value => cases ht : value.isTruthy <;> simp [Option.filter, ht]

/-- **Spellings of indices.** A field whose key spells an index, be it a text or a number, has the
value that is under the key as it is, whatever this value counts as. -/
theorem resolve?_eq_property? {n : Nat} (hn : n < 2 ^ 63) (input : Json) :
    (∀ field : Field, field.key = n.repr →
      input.resolve? field.key = input.property? n.repr) ∧
    ∀ field : Field, field.AsksFor n → field.key = n.repr := by
  constructor
  · intro field hkey
    rw [hkey, resolve?_repr hn]
  · intro field hfield
    exact hfield.key_eq (by omega)

/-- Negative zero asks for the first element, and has it although it is null. -/
theorem resolve?_eq_property?_negativeZero :
    (Field.index (.float (Binary64.zero true))).AsksFor 0 ∧
      (array [.null]).resolve? (Field.index (.float (Binary64.zero true))).key = some .null := by
  have hfield : (Field.index (.float (Binary64.zero true))).AsksFor 0 :=
    .index (Binary64.toInt?_zero true)
  obtain ⟨hresolve, hkey⟩ := resolve?_eq_property? (by decide : 0 < 2 ^ 63) (array [.null])
  exact ⟨hfield, hresolve _ (hkey _ hfield)⟩

/-! ## Negative indices of objects -/

theorem present?_object_eq_none_iff {entries : Entries Json} {key : String} :
    (object entries).present? key = none ↔
      ∀ value, Entries.get? key entries = some value → value.isTruthy = false := by
  simp [present?, property?, Option.filter_eq_none_iff]

/-- **Negative indices of objects.** A key that has no value that counts and is read as a negative
index leads to the key that spells the sum of the index and the number under `length`; without such
a number it leads nowhere. -/
theorem resolve?_object_negative {entries : Entries Json} {key : String} {index : Int}
    (habsent : ∀ value, Entries.get? key entries = some value → value.isTruthy = false)
    (hinteger : leadingInteger? key = some index) (hlow : -2 ^ 53 ≤ index)
    (hnegative : index < 0) :
    (∀ length n, Entries.get? "length" entries = some (.number length) →
      length.toInt? = some n → 0 ≤ n → n ≤ 2 ^ 53 →
        (object entries).resolve? key = Entries.get? (n + index).repr entries) ∧
    ((∀ length, Entries.get? "length" entries ≠ some (.number length)) →
      (object entries).resolve? key = none) := by
  have hresolve : (object entries).resolve? key =
      (entries.indexKey? index).bind fun k => Entries.get? k entries := by
    rw [resolve?_object, present?_object_eq_none_iff.2 habsent, hinteger, Option.none_or,
      Option.bind_some, elementAt?_object]
  constructor
  · intro length n hlength hint hn hsmall
    rw [hresolve, Entries.indexKey?_of_length hnegative hlow hlength hint hn hsmall]
    rfl
  · intro hlength
    rw [hresolve, Entries.indexKey?_of_no_length hnegative hlength]
    rfl

/-- The text under `-6` counts as false, and six before the end of four things is `-2`. -/
def countedThings : Entries Json :=
  [("-6", .string ""), ("-2", .bool true), ("length", .number (.whole ⟨4, by decide, by decide⟩))]

theorem resolve?_object_negative_countedThings :
    (object countedThings).resolve? "-6" = some (.bool true) ∧
      (object (Entries.erase "length" countedThings)).resolve? "-6" = none := by
  have hinteger : leadingInteger? "-6" = some (-6) := by decide
  have habsent : ∀ entries : Entries Json, Entries.get? "-6" entries = some (string "") →
      ∀ value, Entries.get? "-6" entries = some value → value.isTruthy = false := by
    intro entries hempty value hvalue
    rw [hempty] at hvalue
    cases hvalue
    rfl
  constructor
  · have hcounted := resolve?_object_negative (habsent countedThings rfl) hinteger (by decide)
      (by decide)
    exact hcounted.1 _ 4 rfl rfl (by decide) (by decide)
  · have hcounted := resolve?_object_negative
      (habsent (Entries.erase "length" countedThings) rfl) hinteger (by decide) (by decide)
    refine hcounted.2 fun length hlength => ?_
    cases hlength

end Json
end Pluck
