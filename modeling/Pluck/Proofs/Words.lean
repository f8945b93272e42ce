import Pluck.Proofs.Indexing

/-!
Indices in machine words.

An index is computed in signed words of 64 bits: the digits are read one after the other, the result
is negated for a minus sign, and a negative index is added to the number of things in a row. Here
these computations are done in words, with an overflow as a result of its own. None of them
overflows, and all of them agree with what is done in unbounded integers (`words_hold_indices`).
-/

namespace Pluck

/-- An operation whose result no word holds. -/
inductive Overflow where
  | negation
  | sum
deriving DecidableEq

namespace Word

def neg (a : Int64) : Except Overflow Int64 :=
  if a.toBitVec.negOverflow then .error .negation else .ok (-a)

def add (a b : Int64) : Except Overflow Int64 :=
  if a.toBitVec.saddOverflow b.toBitVec then .error .sum else .ok (a + b)

/-- The number of the digits read so far and one more, if a word holds it. -/
def addDigit? (radix : Nat) (read : Int64) (value : Nat) : Option Int64 :=
  let scale := Int64.ofNat radix
  let digit := Int64.ofNat value
  if read.toBitVec.smulOverflow scale.toBitVec then none
  else if (read * scale).toBitVec.saddOverflow digit.toBitVec then none
  else some (read * scale + digit)

/-- The number that the digits spell, if a word holds it. -/
def ofDigits? (radix : Nat) (digits : List Char) : Option Int64 :=
  digits.foldlM (fun read c => addDigit? radix read ((Digit.value? radix c).getD 0)) 0

end Word

/-- The integer at the front of the text. Digits whose number no word holds are no integer. -/
def leadingWord? (text : String) : Except Overflow (Option Int64) :=
  let (negative, unsigned) := splitSign (text.toList.dropWhile isBlank)
  let (radix, digits) := splitRadix unsigned
  let run := digits.takeWhile (Digit.isDigit radix)
  if run.isEmpty then .ok none
  else
    match Word.ofDigits? radix run with
    | none => .ok none
    | some magnitude => if negative then (Word.neg magnitude).map some else .ok (some magnitude)

/-- The place of an index among `length` things. -/
def wordPosition? (length : UInt64) (index : Int64) : Except Overflow (Option UInt64) :=
  if index < 0 then
    (Word.add length.toInt64 index).map fun place =>
      if 0 ≤ place then some place.toUInt64 else none
  else .ok (some index.toUInt64)

namespace Json

/-- The value at an index. What has nothing in a row is asked without any arithmetic in words. -/
def elementByWord (input : Json) (index : Int64) : Except Overflow (Option Json) :=
  match input.row? with
  | some row =>
      (wordPosition? (UInt64.ofNat row.length) index).map fun place =>
        place.bind fun place => row[place.toNat]?
  | none => .ok (input.elementAt? index.toInt)

/-- The value of a key that may be read as an index. -/
def resolveKeyByWords (input : Json) (key : String) : Except Overflow (Option Json) :=
  match input.present? key with
  | some value => .ok (some value)
  | none =>
      match leadingWord? key with
      | .error e => .error e
      | .ok none => .ok none
      | .ok (some index) => input.elementByWord index

/-- The value of a field. -/
def resolveByWords (input : Json) (key : String) : Except Overflow (Option Json) :=
  match input with
  | .array elements =>
      if key = "length" then .ok (some (count elements.length))
      else if key = "-" then .ok elements.getLast?
      else input.resolveKeyByWords key
  | _ => input.resolveKeyByWords key

end Json

/-! ## Operations -/

namespace Word

theorem neg_eq {a : Int64} (h : a.toInt ≠ -2 ^ 63) : neg a = .ok (-a) := by
  have hfits : ¬ a.toBitVec.negOverflow = true := by
    simpa [BitVec.negOverflow] using h
  exact if_neg hfits

theorem add_eq {a b : Int64} (hlow : -2 ^ 63 ≤ a.toInt + b.toInt)
    (hhigh : a.toInt + b.toInt < 2 ^ 63) :
    add a b = .ok (a + b) ∧ (a + b).toInt = a.toInt + b.toInt := by
  have hfits : ¬ a.toBitVec.saddOverflow b.toBitVec = true := by
    simp only [BitVec.saddOverflow, Int64.toInt_toBitVec, Bool.or_eq_true, decide_eq_true_eq]
    omega
  refine ⟨if_neg hfits, ?_⟩
  rw [← Int64.toInt_toBitVec, Int64.toBitVec_add, BitVec.toInt_add_of_not_saddOverflow hfits,
    Int64.toInt_toBitVec, Int64.toInt_toBitVec]

/-- A number that is not negative, if a word holds it. -/
def ofNat? (n : Nat) : Option Int64 := if n < 2 ^ 63 then some (Int64.ofNat n) else none

theorem addDigit?_ofNat {radix n value : Nat} (hn : n < 2 ^ 63) (hradix : radix ≤ 16)
    (hvalue : value < 16) :
    addDigit? radix (Int64.ofNat n) value = ofNat? (n * radix + value) := by
  have hread : (Int64.ofNat n).toInt = n := Int64.toInt_ofNat_of_lt hn
  have hscale : (Int64.ofNat radix).toInt = radix := Int64.toInt_ofNat_of_lt (by omega)
  have hdigit : (Int64.ofNat value).toInt = value := Int64.toInt_ofNat_of_lt (by omega)
  have hmul : (Int64.ofNat n).toBitVec.smulOverflow (Int64.ofNat radix).toBitVec = true ↔
      2 ^ 63 ≤ n * radix := by
    simp only [BitVec.smulOverflow, Int64.toInt_toBitVec, hread, hscale, Bool.or_eq_true,
      decide_eq_true_eq]
    omega
  unfold addDigit? ofNat?
  -- the product and the sum are checked one after the other, and either may be too large
  by_cases hlarge : 2 ^ 63 ≤ n * radix
  · rw [if_pos (hmul.2 hlarge), if_neg (by omega)]
  · have hproduct : Int64.ofNat n * Int64.ofNat radix = Int64.ofNat (n * radix) := by
      rw [← Int64.ofNat_mul]
    have hadd : (Int64.ofNat (n * radix)).toBitVec.saddOverflow (Int64.ofNat value).toBitVec =
        true ↔ 2 ^ 63 ≤ n * radix + value := by
      have hfits : (Int64.ofNat (n * radix)).toInt = (n * radix : Nat) :=
        Int64.toInt_ofNat_of_lt (by omega)
      simp only [BitVec.saddOverflow, Int64.toInt_toBitVec, hfits, hdigit, Bool.or_eq_true,
        decide_eq_true_eq]
      omega
    rw [if_neg (mt hmul.1 hlarge), hproduct]
    by_cases hsum : 2 ^ 63 ≤ n * radix + value
    · rw [if_pos (hadd.2 hsum), if_neg (by omega)]
    · rw [if_neg (mt hadd.1 hsum), if_pos (by omega), Int64.ofNat_add]

end Word

/-! ## Digits -/

section Radix

variable {radix : Nat} (hpos : 0 < radix)

include hpos

theorem Digit.value_lt (c : Char) : (Digit.value? radix c).getD 0 < radix := by
  cases hvalue : Digit.value? radix c with
  | none => exact hpos
  | some value =>
      have hfilter := (Option.filter_eq_some_iff.1 hvalue).2
      exact of_decide_eq_true hfilter

theorem Digit.le_foldl (digits : List Char) (n : Nat) :
    n ≤ digits.foldl (fun read c => read * radix + (Digit.value? radix c).getD 0) n := by
  induction digits generalizing n with
  | nil => exact Nat.le_refl n
  | cons c rest ih =>
      have hscale : n ≤ n * radix := Nat.le_mul_of_pos_right n hpos
      have hrest := ih (n * radix + (Digit.value? radix c).getD 0)
      rw [List.foldl_cons]
      omega

/-- Digits are read one after the other into words that hold the numbers below `bound`. Numbers only
grow with each digit, so one that no word holds is never smaller later. -/
theorem Digit.foldlM_eq {W : Type} {bound : Nat} {word : Nat → W} {step : W → Char → Option W}
    {digits : List Char}
    (hstep : ∀ c ∈ digits, ∀ n < bound, step (word n) c =
      let next := n * radix + (Digit.value? radix c).getD 0
      if next < bound then some (word next) else none)
    {n : Nat} (hn : n < bound) :
    digits.foldlM step (word n) =
      let read := digits.foldl (fun read c => read * radix + (Digit.value? radix c).getD 0) n
      if read < bound then some (word read) else none := by
  induction digits generalizing n with
  | nil => exact (if_pos hn).symm
  | cons c rest ih =>
      obtain ⟨hc, hrest⟩ := List.forall_mem_cons.1 hstep
      rw [List.foldlM_cons, List.foldl_cons, hc n hn]
      by_cases hfits : n * radix + (Digit.value? radix c).getD 0 < bound
      · simp only [if_pos hfits]
        exact ih hrest hfits
      · have hgrows := Digit.le_foldl hpos rest (n * radix + (Digit.value? radix c).getD 0)
        simp only [if_neg hfits]
        exact (if_neg (by omega)).symm

theorem Word.foldlM_addDigit? (hradix : radix ≤ 16) (digits : List Char) {n : Nat}
    (hn : n < 2 ^ 63) :
    digits.foldlM (fun read c => addDigit? radix read ((Digit.value? radix c).getD 0))
        (Int64.ofNat n) =
      ofNat? (digits.foldl (fun read c => read * radix + (Digit.value? radix c).getD 0) n) := by
  refine Digit.foldlM_eq hpos (fun c _ n hn => ?_) hn
  have hvalue := Digit.value_lt hpos c
  exact addDigit?_ofNat hn hradix (by omega)

theorem Word.ofDigits?_eq (hradix : radix ≤ 16) (digits : List Char) :
    ofDigits? radix digits = ofNat? (Digit.number radix digits) :=
  foldlM_addDigit? hpos hradix digits (by decide)

end Radix

theorem splitRadix_radix (text : List Char) :
    0 < (splitRadix text).1 ∧ (splitRadix text).1 ≤ 16 := by
  unfold splitRadix
  split
  · exact ⟨Nat.succ_pos _, Nat.le_refl 16⟩
  · exact ⟨Nat.succ_pos _, Nat.le_refl 16⟩
  · exact ⟨Nat.succ_pos _, Nat.le_add_right 10 6⟩

/-- The negation of a magnitude never overflows: the magnitude itself is in a word. -/
theorem leadingWord?_eq (text : String) :
    leadingWord? text = .ok ((leadingInteger? text).map Int64.ofInt) := by
  unfold leadingWord? leadingInteger?
  obtain ⟨negative, unsigned⟩ := splitSign (text.toList.dropWhile isBlank)
  obtain ⟨hpos, hradix⟩ := splitRadix_radix unsigned
  simp only [Word.ofDigits?_eq hpos hradix]
  generalize (splitRadix unsigned).1 = radix
  generalize (splitRadix unsigned).2.takeWhile (Digit.isDigit radix) = run
  by_cases hempty : run.isEmpty = true
  · rw [if_pos hempty, if_pos (.inl hempty)]
    rfl
  · rw [if_neg hempty]
    by_cases hlarge : 2 ^ 63 ≤ Digit.number radix run
    · rw [Word.ofNat?, if_neg (by omega), if_pos (.inr hlarge)]
      rfl
    · have hfits : Digit.number radix run < 2 ^ 63 := by omega
      rw [Word.ofNat?, if_pos hfits, if_neg (not_or.2 ⟨hempty, hlarge⟩), Option.map_some]
      cases negative with
      | true =>
          have hmagnitude := Int64.toInt_ofNat_of_lt hfits
          have hneg := Word.neg_eq (a := Int64.ofNat (Digit.number radix run)) (by omega)
          simp only [if_true, hneg, Int64.ofInt_neg, Int64.ofInt_eq_ofNat]
          rfl
      | false =>
          rw [← Int64.ofInt_eq_ofNat]
          rfl

theorem toInt_of_leadingInteger? {text : String} {index : Int}
    (h : leadingInteger? text = some index) : (Int64.ofInt index).toInt = index := by
  have hbound := natAbs_lt_of_leadingInteger? h
  exact Int64.toInt_ofInt_of_le (by omega) (by omega)

/-! ## Places -/

/-- The place of an index among `length` things, by the cases of the index. -/
structure IsPlace (length : Nat) (index : Int) (place : Option Nat) : Prop where
  fromStart : 0 ≤ index → place = some index.toNat
  fromEnd : -length ≤ index → index < 0 → ∃ p < length, place = some p ∧ (p : Int) = length + index
  before : index < -length → place = none

theorem isPlace_position? (length : Nat) (index : Int) :
    IsPlace length index (position? length index) where
  fromStart hstart := by
    have hsign : ¬ index < 0 := by omega
    simp only [position?, if_neg hsign, if_pos hstart]
  fromEnd hlow hneg := by
    have hplace : 0 ≤ length + index := by omega
    refine ⟨(length + index).toNat, by omega, ?_, by omega⟩
    simp only [position?, if_pos hneg, if_pos hplace]
  before hlow := by
    have hneg : index < 0 := by omega
    have hplace : ¬ 0 ≤ length + index := by omega
    simp only [position?, if_pos hneg, if_neg hplace]

theorem position?_lt {length place : Nat} {index : Int} (hlength : length < 2 ^ 63)
    (hindex : index < 2 ^ 63) (h : position? length index = some place) : place < 2 ^ 63 := by
  simp only [position?, Option.ite_none_right_eq_some, Option.some.injEq] at h
  obtain ⟨hplace, rfl⟩ := h
  split <;> omega

theorem Word.nonneg_iff {a : Int64} : 0 ≤ a ↔ 0 ≤ a.toInt := by
  rw [Int64.le_iff_toInt_le, Int64.toInt_zero]

theorem Word.neg_iff {a : Int64} : a < 0 ↔ a.toInt < 0 := by
  rw [Int64.lt_iff_toInt_lt, Int64.toInt_zero]

theorem Word.toUInt64_eq {a : Int64} (h : 0 ≤ a.toInt) :
    a.toUInt64 = UInt64.ofNat a.toInt.toNat := by
  have hbound := a.toInt_lt
  have hword : a = Int64.ofNat a.toInt.toNat := by
    rw [← Int64.toInt_inj, Int64.toInt_ofNat_of_lt (by omega), Int.toNat_of_nonneg h]
  rw [← Int64.toUInt64_ofNat', ← hword]

theorem Word.toInt_toInt64 {length : UInt64} (h : length.toNat < 2 ^ 63) :
    length.toInt64.toInt = length.toNat := by
  rw [← Int64.toInt_ofNat_of_lt h, ← UInt64.toInt64_ofNat', UInt64.ofNat_toNat]

/-- A length is not negative and a negative index is, so their sum is between the two. -/
theorem wordPosition?_eq {length : UInt64} (h : length.toNat < 2 ^ 63) (index : Int64) :
    wordPosition? length index = .ok ((position? length.toNat index.toInt).map UInt64.ofNat) := by
  have hlength := Word.toInt_toInt64 h
  have hlow := index.le_toInt
  unfold wordPosition? position?
  by_cases hneg : index.toInt < 0
  · obtain ⟨hadd, hsum⟩ := Word.add_eq (a := length.toInt64) (b := index) (by omega) (by omega)
    rw [hlength] at hsum
    rw [if_pos (Word.neg_iff.2 hneg), if_pos hneg, hadd, ← hsum]
    by_cases hplace : 0 ≤ (length.toInt64 + index).toInt
    · rw [if_pos hplace, Option.map_some, ← Word.toUInt64_eq hplace]
      exact congrArg Except.ok (if_pos (Word.nonneg_iff.2 hplace))
    · rw [if_neg hplace]
      exact congrArg Except.ok (if_neg (mt Word.nonneg_iff.1 hplace))
  · have hstart : 0 ≤ index.toInt := by omega
    rw [if_neg (mt Word.neg_iff.1 hneg), if_neg hneg, Word.toUInt64_eq hstart, if_pos hstart]
    rfl

theorem exists_wordPosition?_eq {length : UInt64} (h : length.toNat < 2 ^ 63) (index : Int64) :
    ∃ place, wordPosition? length index = .ok place ∧
      place.map UInt64.toNat = position? length.toNat index.toInt := by
  refine ⟨_, wordPosition?_eq h index, ?_⟩
  cases hplace : position? length.toNat index.toInt with
  | none => rfl
  | some place =>
      have hbound := position?_lt h index.toInt_lt hplace
      exact congrArg some (UInt64.toNat_ofNat_of_lt' (Nat.lt_trans hbound (by decide)))

/-! ## Fields -/

namespace Json

section

variable {input : Json} (h : ∀ row, input.row? = some row → row.length < 2 ^ 63)

include h

theorem elementByWord_eq (index : Int64) :
    input.elementByWord index = .ok (input.elementAt? index.toInt) := by
  unfold elementByWord
  cases hrow : input.row? with
  | none => rfl
  | some row =>
      have hlength := h row hrow
      have hcount : (UInt64.ofNat row.length).toNat = row.length :=
        UInt64.toNat_ofNat_of_lt' (Nat.lt_trans hlength (by decide))
      obtain ⟨place, hplace, hposition⟩ := exists_wordPosition?_eq (hcount ▸ hlength) index
      rw [elementAt?_row hrow, ← position?_bind, ← hcount, ← hposition]
      simp only [hplace]
      cases place with
      | none => rfl
      | some place => rfl

theorem resolveKeyByWords_eq (key : String) :
    input.resolveKeyByWords key = .ok (input.resolveKey? key) := by
  unfold resolveKeyByWords
  rw [resolveKey?_eq, leadingWord?_eq]
  cases input.present? key with
  | some value => rfl
  | none =>
      cases hinteger : leadingInteger? key with
      | none => rfl
      | some index =>
          have hindex := toInt_of_leadingInteger? hinteger
          exact (elementByWord_eq h (Int64.ofInt index)).trans (by rw [hindex]; rfl)

theorem resolveByWords_eq (key : String) :
    input.resolveByWords key = .ok (input.resolve? key) := by
  unfold resolveByWords resolve?
  cases input with
  | array elements =>
      simp only [resolveKeyByWords_eq h]
      split
      · rfl
      · split <;> rfl
  | null | bool | number | string | object => exact resolveKeyByWords_eq h key

end

end Json

/-- **Indices fit words.** The integer at the front of a text is computed in words without
overflow and stays above the least word. So does its place in any row of less than `2 ^ 63` things,
and no key overflows on any value whose row is that short. -/
theorem words_hold_indices :
    (∀ text, ∃ word?, leadingWord? text = .ok word? ∧
      word?.map Int64.toInt = leadingInteger? text ∧
      ∀ word ∈ word?, word ≠ Int64.minValue ∧
        -(2 ^ 63 - 1) ≤ word.toInt ∧ word.toInt ≤ 2 ^ 63 - 1) ∧
    (∀ text word, leadingWord? text = .ok (some word) →
      ∀ length : UInt64, length.toNat ≤ 2 ^ 63 - 1 →
        ∃ place, wordPosition? length word = .ok place ∧
          place.map UInt64.toNat = position? length.toNat word.toInt ∧
          IsPlace length.toNat word.toInt (place.map UInt64.toNat)) ∧
    ∀ (input : Json) (key : String),
      (∀ row, input.row? = some row → row.length ≤ 2 ^ 63 - 1) →
        input.resolveByWords key = .ok (input.resolve? key) := by
  refine ⟨fun text => ⟨_, leadingWord?_eq text, ?_, ?_⟩, ?_, ?_⟩
  · cases hinteger : leadingInteger? text with
    | none => rfl
    | some index => exact congrArg some (toInt_of_leadingInteger? hinteger)
  · intro word hword
    obtain ⟨index, hinteger, rfl⟩ := Option.map_eq_some_iff.1 hword
    have hbound := natAbs_lt_of_leadingInteger? hinteger
    have hindex := toInt_of_leadingInteger? hinteger
    refine ⟨fun hleast => ?_, by omega, by omega⟩
    rw [hleast, Int64.toInt_minValue] at hindex
    omega
  · intro text word _ length hlength
    have hfits : length.toNat < 2 ^ 63 := by omega
    obtain ⟨place, hplace, hposition⟩ := exists_wordPosition?_eq hfits word
    exact ⟨place, hplace, hposition, hposition ▸ isPlace_position? _ _⟩
  · intro input key hlength
    refine Json.resolveByWords_eq (fun row hrow => ?_) key
    have hrow := hlength row hrow
    omega

/-- The least index there is, and one from the end of a string. -/
theorem words_hold_indices_extremes :
    (∃ place, wordPosition? 9223372036854775807 (-9223372036854775807) = .ok place ∧
      place.map UInt64.toNat = some 0) ∧
    (Json.string "ab").resolveByWords "-0x1" = .ok (some (.string "b")) := by
  obtain ⟨-, hplace, hfield⟩ := words_hold_indices
  have hleast : leadingWord? "-0x7fffffffffffffff" = .ok (some (-9223372036854775807)) := by
    decide
  have hresolve : (Json.string "ab").resolve? "-0x1" = some (.string "b") := by rfl
  refine ⟨?_, ?_⟩
  · obtain ⟨place, hposition, hexact, -⟩ :=
      hplace _ _ hleast 9223372036854775807 (by decide)
    exact ⟨place, hposition, hexact⟩
  · rw [hfield (.string "ab") "-0x1" ?_, hresolve]
    intro row hrow
    obtain rfl := Option.some.inj hrow
    decide

end Pluck
