import Mathlib.Data.Nat.Digits.Defs
import Pluck.Proofs.Words

/-!
Keys that are indices.

A number has one decimal spelling without a sign and without zeros in front (`isDecimal_iff`). A key
is read as an unsigned word of 64 bits, and for this reading a plus sign and zeros in front are no
fault (`Word.ofText?_eq_some_iff`); the key is an index only if the word is written as the key
again. That leaves the decimal spellings of the words and nothing else
(`canonicalWord?_eq_some_iff`). So each place in an array or a string has one key, and the only
other key that leads anywhere is the name of the count (`decimal_keys`).
-/

namespace Pluck

/-- The key spells the number in decimal digits, each one counting ten times as much as it would in
the next place. There is no sign, and zero is the first digit only if it is the only one. -/
structure IsDecimal (key : String) (n : Nat) : Prop where
  digits : ∀ c ∈ key.toList, c.isDigit = true
  ne_nil : key.toList ≠ []
  zero : key.toList.head? = some '0' → key.toList = ['0']
  value : Nat.ofDigits 10 (key.toList.reverse.map fun c => c.toNat - '0'.toNat) = n

namespace Word

/-- The number read so far with one more digit after it, if the character is one and a word holds
the number. -/
def appendDigit? (read : UInt64) (c : Char) : Option UInt64 :=
  match Digit.value? 10 c with
  | none => none
  | some value =>
      let digit := UInt64.ofNat value
      if read.toBitVec.umulOverflow (10 : UInt64).toBitVec then none
      else if (read * 10).toBitVec.uaddOverflow digit.toBitVec then none
      else some (read * 10 + digit)

/-- The word that a text spells. A plus sign and zeros may stand in front. -/
def ofText? (text : String) : Option UInt64 :=
  let (negative, digits) := splitSign text.toList
  if negative ∨ digits.isEmpty then none else digits.foldlM appendDigit? 0

end Word

/-- The index that a key spells, if the index is written as the key again. -/
def canonicalWord? (key : String) : Option UInt64 :=
  (Word.ofText? key).filter fun index => index.toNat.repr = key

/-! ## Decimal spellings -/

/-- The weights of the places add up to what the digits are read as from the front. -/
theorem Digit.ofDigits_reverse (digits : List Char) :
    Nat.ofDigits 10 (digits.reverse.map fun c => c.toNat - '0'.toNat) =
      Nat.ofDigitChars 10 digits 0 := by
  induction digits with
  | nil => rfl
  | cons c rest ih =>
      have hshift : Nat.ofDigitChars 10 rest (c.toNat - '0'.toNat) =
          10 ^ rest.length * (c.toNat - '0'.toNat) + Nat.ofDigitChars 10 rest 0 :=
        Nat.ofDigitChars_eq_ofDigitChars_zero
      rw [List.reverse_cons, List.map_append, Nat.ofDigits_append, ih, Nat.ofDigitChars_cons,
        Nat.mul_zero, Nat.zero_add, hshift, List.length_map, List.length_reverse,
        List.map_singleton, Nat.ofDigits_singleton, Nat.add_comm]

theorem Digit.sub_lt_ten {c : Char} (h : c.isDigit = true) : c.toNat - '0'.toNat < 10 := by
  have hhigh := (toNat_of_isDigit h).2
  change c.toNat - 48 < 10
  omega

theorem toDigits_of_isDigit {c : Char} (h : c.isDigit = true) :
    Nat.toDigits 10 (c.toNat - '0'.toNat) = [c] := by
  have hlt := Digit.sub_lt_ten h
  have hchar : (c.toNat - '0'.toNat).digitChar = c := by
    have hlow := (toNat_of_isDigit h).1
    rw [← Char.toNat_inj, Nat.toNat_digitChar_of_lt_ten hlt]
    change 48 + (c.toNat - 48) = c.toNat
    omega
  rw [Nat.toDigits_of_lt_base hlt, hchar]

/-- Digits after a number that is not zero are the last ones of a longer number. -/
theorem toDigits_append_digits {digits : List Char} (h : ∀ c ∈ digits, c.isDigit = true) {n : Nat}
    (hpos : 0 < n) :
    Nat.toDigits 10 n ++ digits = Nat.toDigits 10 (Nat.ofDigitChars 10 digits n) := by
  induction digits generalizing n with
  | nil => rw [List.append_nil, Nat.ofDigitChars_nil]
  | cons c rest ih =>
      obtain ⟨hc, hrest⟩ := List.forall_mem_cons.1 h
      calc
        Nat.toDigits 10 n ++ c :: rest
            = Nat.toDigits 10 n ++ Nat.toDigits 10 (c.toNat - '0'.toNat) ++ rest := by
          rw [toDigits_of_isDigit hc, List.append_assoc, List.singleton_append]
        _ = Nat.toDigits 10 (10 * n + (c.toNat - '0'.toNat)) ++ rest := by
          rw [Nat.toDigits_append_toDigits (by decide) hpos (Digit.sub_lt_ten hc)]
        _ = Nat.toDigits 10 (Nat.ofDigitChars 10 (c :: rest) n) := by
          rw [ih hrest (by omega), Nat.ofDigitChars_cons]

/-- The decimal spelling is the one in which numbers are written. -/
theorem isDecimal_iff {key : String} {n : Nat} : IsDecimal key n ↔ key = n.repr := by
  constructor
  · rintro ⟨hdigits, hne, hzero, rfl⟩
    rw [Digit.ofDigits_reverse, ← String.toList_inj, Nat.toList_repr]
    obtain ⟨c, rest, hkey⟩ := List.exists_cons_of_ne_nil hne
    rw [hkey] at hdigits hzero ⊢
    obtain ⟨hc, hrest⟩ := List.forall_mem_cons.1 hdigits
    by_cases hc0 : c = '0'
    · obtain rfl := hc0
      rw [hzero rfl]
      rfl
    · have hpos : 0 < c.toNat - '0'.toNat := by
        have hlow := (toNat_of_isDigit hc).1
        have hne0 : c.toNat ≠ 48 := fun h => hc0 (Char.toNat_inj.1 h)
        change 0 < c.toNat - 48
        omega
      rw [Nat.ofDigitChars_cons, Nat.mul_zero, Nat.zero_add, ← toDigits_append_digits hrest hpos,
        toDigits_of_isDigit hc, List.singleton_append]
  · rintro rfl
    have hlist : n.repr.toList = Nat.toDigits 10 n := Nat.toList_repr
    refine ⟨?_, ?_, ?_, ?_⟩
    · rw [hlist]
      exact fun c => isDigit_of_mem_toDigits
    · rw [hlist]
      exact Nat.toDigits_ne_nil
    · obtain ⟨c, rest, hdigits, hc⟩ := toDigits_eq_cons n
      rw [hlist, hdigits]
      intro hhead
      obtain rfl : n = 0 := Nat.eq_zero_of_not_pos fun hpos => hc hpos (Option.some.inj hhead)
      exact hdigits.symm
    · rw [Digit.ofDigits_reverse, ofDigitChars_repr]

/-! ## Reading words -/

namespace Word

theorem appendDigit?_ofNat {c : Char} (hc : Digit.isDigit 10 c = true) {n : Nat}
    (hn : n < 2 ^ 64) :
    appendDigit? (UInt64.ofNat n) c =
      let next := n * 10 + (Digit.value? 10 c).getD 0
      if next < 2 ^ 64 then some (UInt64.ofNat next) else none := by
  obtain ⟨value, hvalue⟩ := Option.isSome_iff_exists.1 hc
  have hlt := Digit.value_lt (by decide : 0 < 10) c
  rw [hvalue, Option.getD_some] at hlt
  have hread : (UInt64.ofNat n).toNat = n := UInt64.toNat_ofNat_of_lt' hn
  have hdigit : (UInt64.ofNat value).toNat = value :=
    UInt64.toNat_ofNat_of_lt' (Nat.lt_trans hlt (by decide))
  have hmul : (UInt64.ofNat n).toBitVec.umulOverflow (10 : UInt64).toBitVec = true ↔
      2 ^ 64 ≤ n * 10 := by
    simp only [BitVec.umulOverflow, UInt64.toNat_toBitVec, hread, decide_eq_true_eq]
    exact Iff.rfl
  simp only [appendDigit?, hvalue, Option.getD_some]
  -- the product and the sum are checked one after the other, and either may be too large
  by_cases hlarge : 2 ^ 64 ≤ n * 10
  · rw [if_pos (hmul.2 hlarge), if_neg (by omega)]
  · have hproduct : UInt64.ofNat n * 10 = UInt64.ofNat (n * 10) := (UInt64.ofNat_mul n 10).symm
    have hscaled : (UInt64.ofNat (n * 10)).toNat = n * 10 :=
      UInt64.toNat_ofNat_of_lt' (Nat.lt_of_not_le hlarge)
    have hadd : (UInt64.ofNat (n * 10)).toBitVec.uaddOverflow (UInt64.ofNat value).toBitVec =
        true ↔ 2 ^ 64 ≤ n * 10 + value := by
      simp only [BitVec.uaddOverflow, UInt64.toNat_toBitVec, hscaled, hdigit, decide_eq_true_eq]
    rw [if_neg (mt hmul.1 hlarge), hproduct]
    by_cases hsum : 2 ^ 64 ≤ n * 10 + value
    · rw [if_pos (hadd.2 hsum), if_neg (by omega)]
    · rw [if_neg (mt hadd.1 hsum), if_pos (by omega), UInt64.ofNat_add]

theorem isDigit_of_foldlM {digits : List Char} {read word : UInt64}
    (h : digits.foldlM appendDigit? read = some word) :
    ∀ c ∈ digits, Digit.isDigit 10 c = true := by
  induction digits generalizing read with
  | nil => exact List.forall_mem_nil _
  | cons c rest ih =>
      rw [List.foldlM_cons] at h
      obtain ⟨next, hnext, hrest⟩ := Option.bind_eq_some_iff.1 h
      refine List.forall_mem_cons.2 ⟨?_, ih hrest⟩
      unfold appendDigit? at hnext
      split at hnext
      · cases hnext
      · next value hvalue => exact Option.isSome_iff_exists.2 ⟨value, hvalue⟩

theorem foldlM_appendDigit? {digits : List Char} (h : ∀ c ∈ digits, Digit.isDigit 10 c = true) :
    digits.foldlM appendDigit? 0 =
      if Digit.number 10 digits < 2 ^ 64 then some (UInt64.ofNat (Digit.number 10 digits))
      else none :=
  Digit.foldlM_eq (by decide) (fun c hc _ hn => appendDigit?_ofNat (h c hc) hn) (by decide)

/-- What is read as a word: digits whose number a word holds, with or without a plus sign. -/
theorem ofText?_eq_some_iff {text : String} {word : UInt64} :
    ofText? text = some word ↔ ∃ digits, splitSign text.toList = (false, digits) ∧ digits ≠ [] ∧
      (∀ c ∈ digits, Digit.isDigit 10 c = true) ∧ Digit.number 10 digits = word.toNat := by
  unfold ofText?
  obtain ⟨negative, digits⟩ := splitSign text.toList
  constructor
  · intro h
    dsimp only at h
    rw [Option.ite_none_left_eq_some, not_or, Bool.not_eq_true, List.isEmpty_iff] at h
    obtain ⟨⟨rfl, hne⟩, hread⟩ := h
    have hdigits := isDigit_of_foldlM hread
    rw [foldlM_appendDigit? hdigits, Option.ite_none_right_eq_some] at hread
    obtain ⟨hfits, hword⟩ := hread
    obtain rfl := Option.some.inj hword
    exact ⟨digits, rfl, hne, hdigits, (UInt64.toNat_ofNat_of_lt' hfits).symm⟩
  · rintro ⟨_, ⟨⟩, hne, hdigits, hnumber⟩
    have hsome : ¬ (false = true ∨ digits.isEmpty = true) := by simpa using hne
    dsimp only
    rw [if_neg hsome, foldlM_appendDigit? hdigits, hnumber, if_pos word.toNat_lt,
      UInt64.ofNat_toNat]

theorem ofText?_repr (word : UInt64) : ofText? word.toNat.repr = some word := by
  have hdigits : ∀ c ∈ Nat.toDigits 10 word.toNat, c.isDigit = true :=
    fun _ => isDigit_of_mem_toDigits
  rw [ofText?_eq_some_iff, Nat.toList_repr]
  exact ⟨_, splitSign_of_isDigit hdigits, Nat.toDigits_ne_nil,
    fun c hc => Digit.isDigit_of_isDigit (hdigits c hc), Digit.number_toDigits _⟩

end Word

theorem canonicalWord?_eq_some_iff {key : String} {index : UInt64} :
    canonicalWord? key = some index ↔ IsDecimal key index.toNat := by
  rw [canonicalWord?, Option.filter_eq_some_iff, decide_eq_true_eq, isDecimal_iff]
  constructor
  · rintro ⟨-, hkey⟩
    exact hkey.symm
  · rintro rfl
    exact ⟨Word.ofText?_repr index, rfl⟩

theorem canonicalIndex?_eq_some_iff_isDecimal {key : String} {index : Nat} :
    canonicalIndex? key = some index ↔ index < 2 ^ 64 ∧ IsDecimal key index := by
  rw [canonicalIndex?_eq_some_iff, isDecimal_iff]

theorem map_canonicalWord? (key : String) :
    (canonicalWord? key).map UInt64.toNat = canonicalIndex? key := by
  refine Option.ext fun index => ?_
  rw [Option.map_eq_some_iff, canonicalIndex?_eq_some_iff_isDecimal]
  simp only [canonicalWord?_eq_some_iff]
  constructor
  · rintro ⟨word, hdecimal, rfl⟩
    exact ⟨word.toNat_lt, hdecimal⟩
  · rintro ⟨hfits, hdecimal⟩
    have hword : (UInt64.ofNat index).toNat = index := UInt64.toNat_ofNat_of_lt' hfits
    exact ⟨UInt64.ofNat index, hword.symm ▸ hdecimal, hword⟩

/-! ## Keys of arrays and strings -/

theorem not_isDecimal_length (n : Nat) : ¬ IsDecimal "length" n := by
  intro h
  have hletter := h.digits 'l' (by decide)
  cases hletter

namespace Json

/-- What the keys of a value with a row lead to: the decimal spelling of a place to what stands
there, the name of the count to the count, and all others to nothing. -/
structure RowKeys (input : Json) (row : List Json) : Prop where
  length : ∃ n : Whole, n.val = row.length ∧ input.property? "length" = some (.number (.whole n))
  element : ∀ (place : Nat) (h : place < row.length) (key : String),
    IsDecimal key place → input.property? key = some row[place]
  other : ∀ key, key ≠ "length" → (∀ place < row.length, ¬ IsDecimal key place) →
    input.property? key = none

theorem rowKeys_of_row {input : Json} {row : List Json} (hrow : input.row? = some row)
    (hlength : row.length < 2 ^ 63) : RowKeys input row where
  length := by
    rw [property?_row hrow, if_pos rfl, count_eq hlength]
    exact ⟨_, rfl, rfl⟩
  element := by
    intro place hplace key hdecimal
    have hkey : key ≠ "length" := by
      rintro rfl
      exact not_isDecimal_length place hdecimal
    have hindex : canonicalIndex? key = some place :=
      canonicalIndex?_eq_some_iff_isDecimal.2 ⟨by omega, hdecimal⟩
    rw [property?_row hrow, if_neg hkey, hindex, Option.bind_some, List.getElem?_eq_getElem hplace]
  other := by
    intro key hkey hother
    rw [property?_row hrow, if_neg hkey, Option.bind_eq_none_iff]
    intro place hindex
    obtain ⟨-, hdecimal⟩ := canonicalIndex?_eq_some_iff_isDecimal.1 hindex
    rw [List.getElem?_eq_none_iff]
    exact Nat.le_of_not_lt fun hplace => hother place hplace hdecimal

end Json

/-- **Decimal keys.** A key is an index exactly if it is the decimal spelling of it, also if it is
read as a word and compared with what is written again. Each number has one such spelling. In an
array or a string each place has this key and no other, and besides them there is the count. -/
theorem decimal_keys :
    (∀ (key : String) (index : Nat), index ≤ 2 ^ 64 - 1 →
      (canonicalIndex? key = some index ↔ IsDecimal key index)) ∧
    (∀ (key : String) (index : UInt64),
      canonicalWord? key = some index ↔ IsDecimal key index.toNat) ∧
    (∀ key, (canonicalWord? key).map UInt64.toNat = canonicalIndex? key) ∧
    (∀ n, ∃! key, IsDecimal key n) ∧
    (∀ elements : List Json, elements.length ≤ 2 ^ 63 - 1 →
      Json.RowKeys (.array elements) elements) ∧
    ∀ text : String, text.length ≤ 2 ^ 63 - 1 →
      Json.RowKeys (.string text) (Json.characters text) := by
  refine ⟨fun key index hfits => ?_, fun _ _ => canonicalWord?_eq_some_iff, map_canonicalWord?,
    fun n => ?_, fun elements hlength => ?_, fun text hlength => ?_⟩
  · rw [canonicalIndex?_eq_some_iff_isDecimal]
    exact and_iff_right (by omega)
  · exact ⟨n.repr, isDecimal_iff.2 rfl, fun key => isDecimal_iff.1⟩
  · exact Json.rowKeys_of_row rfl (by omega)
  · have hcharacters := Json.length_characters text
    exact Json.rowKeys_of_row rfl (by omega)

/-- The greatest word is an index. The second character of a text has one key, although reading a
word takes other spellings of its place as well. -/
theorem decimal_keys_secondCharacter :
    canonicalIndex? "18446744073709551615" = some (2 ^ 64 - 1) ∧
      (Json.string "añ").property? "1" = some (.string "ñ") ∧
      Word.ofText? "+01" = some 1 ∧ (Json.string "añ").property? "+01" = none ∧
      (Json.array [.null, .bool false]).property? "2" = none := by
  obtain ⟨hindex, -, -, -, harray, hstring⟩ := decimal_keys
  have hcharacters := hstring "añ" (by decide)
  have helements := harray [.null, .bool false] (by decide)
  refine ⟨?_, ?_, ?_, ?_, ?_⟩
  · exact (hindex _ _ (Nat.le_refl _)).2 (isDecimal_iff.2 rfl)
  · exact hcharacters.element 1 (by decide) "1" (isDecimal_iff.2 rfl)
  · decide
  · refine hcharacters.other "+01" (by decide) fun place _ hdecimal => ?_
    have hsign := hdecimal.digits '+' (by decide)
    cases hsign
  · refine helements.other "2" (by decide) fun place hplace hdecimal => ?_
    have hvalue : 2 = place := hdecimal.value
    have hlength : [Json.null, .bool false].length = 2 := rfl
    omega

end Pluck
