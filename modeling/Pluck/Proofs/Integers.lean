import Mathlib.Data.List.TakeWhile
import Pluck.Text.LeadingInteger

/-!
Integers at the front of texts.

The magnitude of such an integer is below `2 ^ 63` (`natAbs_lt_of_leadingInteger?`). The decimal
spelling of a number below that bound has this number at its front (`leadingInteger?_repr`); such
spellings are those of indices (`SpellsIndex`).
-/

namespace Pluck

theorem natAbs_lt_of_leadingInteger? {text : String} {index : Int}
    (h : leadingInteger? text = some index) : index.natAbs < 2 ^ 63 := by
  unfold leadingInteger? at h
  simp only at h
  split at h
  · cases h
  · next hrun =>
      have hindex := Option.some.inj h
      split at hindex <;> omega

/-! ## Decimal digits -/

section Digit

variable {c : Char} (h : c.isDigit = true)

include h

theorem toNat_of_isDigit : 48 ≤ c.toNat ∧ c.toNat ≤ 57 := by
  simp only [Char.isDigit, Bool.and_eq_true, decide_eq_true_eq] at h
  exact h

theorem isBlank_eq_false_of_isDigit : isBlank c = false := by
  obtain ⟨hlow, hhigh⟩ := toNat_of_isDigit h
  simp [isBlank, blankRanges]
  omega

theorem Digit.value?_of_isDigit : Digit.value? 10 c = some (c.toNat - 48) := by
  obtain ⟨hlow, hhigh⟩ := toNat_of_isDigit h
  have hhex : Digit.hexValue? c = some (c.toNat - 48) := if_pos ⟨hlow, hhigh⟩
  have hlt : c.toNat - 48 < 10 := by omega
  simp [Digit.value?, hhex, Option.filter, hlt]

theorem Digit.isDigit_of_isDigit : Digit.isDigit 10 c = true := by
  rw [Digit.isDigit, Digit.value?_of_isDigit h]
  rfl

end Digit

section Run

variable {digits : List Char} (h : ∀ c ∈ digits, c.isDigit = true)

include h

theorem Digit.foldl_value?_eq_ofDigitChars (read : Nat) :
    digits.foldl (fun read c => read * 10 + (Digit.value? 10 c).getD 0) read =
      Nat.ofDigitChars 10 digits read := by
  induction digits generalizing read with
  | nil => rfl
  | cons c rest ih =>
      have hvalue := Digit.value?_of_isDigit (h c List.mem_cons_self)
      have hrest := ih fun d hd => h d (List.mem_cons_of_mem _ hd)
      rw [List.foldl_cons, Nat.ofDigitChars_cons, hrest, hvalue, Nat.mul_comm]
      rfl

theorem dropWhile_isBlank_of_isDigit : digits.dropWhile isBlank = digits := by
  cases digits with
  | nil => rfl
  | cons c rest =>
      have hc := isBlank_eq_false_of_isDigit (h c List.mem_cons_self)
      exact List.dropWhile_cons_of_neg (by simp [hc])

theorem splitSign_of_isDigit : splitSign digits = (false, digits) := by
  unfold splitSign
  split
  · have hminus := h '-' List.mem_cons_self
    cases hminus
  · have hplus := h '+' List.mem_cons_self
    cases hplus
  · rfl

theorem splitRadix_of_isDigit : splitRadix digits = (10, digits) := by
  unfold splitRadix
  split
  · have hx := h 'x' (by simp)
    cases hx
  · have hx := h 'X' (by simp)
    cases hx
  · rfl

theorem takeWhile_isDigit_of_isDigit : digits.takeWhile (Digit.isDigit 10) = digits := by
  rw [List.takeWhile_eq_self_iff]
  exact fun c hc => Digit.isDigit_of_isDigit (h c hc)

end Run

theorem ofDigitChars_repr (n : Nat) : Nat.ofDigitChars 10 n.repr.toList 0 = n := by
  rw [Nat.toList_repr, Nat.ofDigitChars_toDigits (by decide) (by decide)]

theorem isDigit_of_mem_toDigits {n : Nat} {c : Char} (hc : c ∈ Nat.toDigits 10 n) :
    c.isDigit = true :=
  Nat.isDigit_of_mem_toDigits (by decide) (by decide) hc

/-- Only zero is spelled with a zero in front. -/
theorem toDigits_eq_cons (n : Nat) :
    ∃ c digits, Nat.toDigits 10 n = c :: digits ∧ (0 < n → c ≠ '0') := by
  induction n using Nat.strongRecOn with
  | ind n ih =>
      rw [Nat.toDigits_eq_if (by decide)]
      split
      · refine ⟨n.digitChar, [], rfl, fun hpos e => ?_⟩
        have hzero := Nat.digitChar_eq_zero.1 e
        omega
      · obtain ⟨c, digits, hdigits, hc⟩ := ih (n / 10) (by omega)
        refine ⟨c, digits ++ [(n % 10).digitChar], ?_, fun _ => hc (by omega)⟩
        rw [hdigits, List.cons_append]

theorem Digit.number_toDigits (n : Nat) : Digit.number 10 (Nat.toDigits 10 n) = n := by
  have hdigits : ∀ c ∈ Nat.toDigits 10 n, c.isDigit = true := fun _ => isDigit_of_mem_toDigits
  rw [Digit.number, Digit.foldl_value?_eq_ofDigitChars hdigits,
    Nat.ofDigitChars_toDigits (by decide) (by decide)]

theorem leadingInteger?_repr {n : Nat} (h : n < 2 ^ 63) :
    leadingInteger? n.repr = some (n : Int) := by
  have hdigits : ∀ c ∈ Nat.toDigits 10 n, c.isDigit = true := fun _ => isDigit_of_mem_toDigits
  have hsome : ¬ ((Nat.toDigits 10 n).isEmpty = true ∨ 2 ^ 63 ≤ n) := by
    rw [List.isEmpty_iff]
    rintro (hnil | hlarge)
    · exact Nat.toDigits_ne_nil hnil
    · omega
  unfold leadingInteger?
  rw [Nat.toList_repr, dropWhile_isBlank_of_isDigit hdigits, splitSign_of_isDigit hdigits]
  simp only [splitRadix_of_isDigit hdigits, takeWhile_isDigit_of_isDigit hdigits,
    Digit.number_toDigits]
  rw [if_neg hsome]
  rfl

/-- The key is the decimal spelling of an index. -/
def SpellsIndex (key : String) : Prop := ∃ n < 2 ^ 63, key = Nat.repr n

theorem spellsIndex_iff (key : String) :
    SpellsIndex key ↔ Nat.ofDigitChars 10 key.toList 0 < 2 ^ 63 ∧
      key = (Nat.ofDigitChars 10 key.toList 0).repr := by
  constructor
  · rintro ⟨n, hn, rfl⟩
    rw [ofDigitChars_repr]
    exact ⟨hn, rfl⟩
  · rintro ⟨hn, hkey⟩
    exact ⟨_, hn, hkey⟩

instance : DecidablePred SpellsIndex := fun key => decidable_of_iff' _ (spellsIndex_iff key)

end Pluck
