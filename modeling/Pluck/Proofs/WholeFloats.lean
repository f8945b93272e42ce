import Pluck.Field

/-!
Integers among the floating-point numbers.

An integer up to `2 ^ 53` in magnitude is a floating-point number, and the sum of two whole numbers
is not rounded if it stays within that bound (`Binary64.exists_ofInt`, `Binary64.exists_add`). As a
key it is spelled like any other number that is the same integer (`Number.key_of_toInt?`).
-/

namespace Pluck
namespace Binary64

/-! ## Magnitudes that are not rounded -/

/-- After its first 53 binary digits the magnitude has only zeros. -/
def Representable (num : Nat) : Prop := 2 ^ (Nat.log2 num - 52) ∣ num

theorem nearestWhole_of_dvd {num den : Nat} (hden : 0 < den) (h : den ∣ num) :
    nearestWhole num den = num / den := by
  have hmod : num % den = 0 := Nat.mod_eq_zero_of_dvd h
  simp [nearestWhole, hmod, hden]

theorem nearestRank_of_representable {num : Nat} (h : Representable num) :
    nearestRank num 1 = (Nat.log2 num - 52) * 2 ^ 52 + num / 2 ^ (Nat.log2 num - 52) := by
  rw [nearestRank, Nat.div_one, Nat.one_mul, nearestWhole_of_dvd (Nat.two_pow_pos _) h]

theorem unitsOfRank_of_lt {rank : Nat} (h : rank < 2 ^ 52) : unitsOfRank rank = rank := by
  have hexponent : exponentOfRank rank = 0 := by
    rw [exponentOfRank, Nat.div_eq_of_lt h]
  rw [unitsOfRank, significandOfRank, if_pos h, hexponent, Nat.pow_zero, Nat.mul_one]

theorem unitsOfRank_of_significand {significand : Nat} (hlow : 2 ^ 52 ≤ significand)
    (hhigh : significand < 2 ^ 53) (exponent : Nat) :
    unitsOfRank (exponent * 2 ^ 52 + significand) = significand * 2 ^ exponent := by
  have hexponent : exponentOfRank (exponent * 2 ^ 52 + significand) = exponent := by
    unfold exponentOfRank
    omega
  have hsignificand : significandOfRank (exponent * 2 ^ 52 + significand) = significand := by
    unfold significandOfRank
    rw [if_neg (by omega)]
    omega
  rw [unitsOfRank, hexponent, hsignificand]

theorem significand_lt (num : Nat) : num / 2 ^ (Nat.log2 num - 52) < 2 ^ 53 := by
  have hhigh : num < 2 ^ (Nat.log2 num + 1) := Nat.lt_log2_self
  rw [Nat.div_lt_iff_lt_mul (Nat.two_pow_pos _), ← Nat.pow_add]
  exact Nat.lt_of_lt_of_le hhigh (Nat.pow_le_pow_right (by decide) (by omega))

theorem le_significand {num : Nat} (hnum : 52 ≤ Nat.log2 num) :
    2 ^ 52 ≤ num / 2 ^ (Nat.log2 num - 52) := by
  have hne : num ≠ 0 := by
    rintro rfl
    simp at hnum
  rw [Nat.le_div_iff_mul_le (Nat.two_pow_pos _), ← Nat.pow_add, Nat.add_sub_cancel' hnum]
  exact Nat.log2_self_le hne

theorem unitsOfRank_nearestRank {num : Nat} (h : Representable num) :
    unitsOfRank (nearestRank num 1) = num := by
  rw [nearestRank_of_representable h]
  by_cases hnum : 52 ≤ Nat.log2 num
  · rw [unitsOfRank_of_significand (le_significand hnum) (significand_lt num)]
    exact Nat.div_mul_cancel h
  · -- a subnormal number
    have hexponent : Nat.log2 num - 52 = 0 := by omega
    have hsmall : num < 2 ^ 52 := by
      have hhigh : num < 2 ^ (Nat.log2 num + 1) := Nat.lt_log2_self
      exact Nat.lt_of_lt_of_le hhigh (Nat.pow_le_pow_right (by decide) (by omega))
    rw [hexponent, Nat.pow_zero, Nat.div_one, Nat.zero_mul, Nat.zero_add]
    exact unitsOfRank_of_lt hsmall

theorem exists_ofUnits {num : Nat} (h : Representable num) (hnum : Nat.log2 num < 2097)
    (negative : Bool) :
    ∃ x, ofUnits negative num 1 = some x ∧ x.negative = negative ∧ x.units = num := by
  have hfinite : nearestRank num 1 < 2047 * 2 ^ 52 := by
    have hsignificand := significand_lt num
    rw [nearestRank_of_representable h]
    omega
  exact ⟨_, dif_pos hfinite, rfl, unitsOfRank_nearestRank h⟩

/-! ## Integers -/

theorem one_pos : 0 < one := by
  rw [one]
  apply Nat.pow_pos
  decide

theorem signedUnits_of_units {x : Binary64} {n : Int} (hunits : x.units = n.natAbs * one)
    (hsign : x.negative = decide (n < 0)) : x.signedUnits = n * one := by
  rw [signedUnits, hunits, hsign, Int.natCast_mul]
  by_cases hn : n < 0
  · have habs : (n.natAbs : Int) = -n := by omega
    rw [if_pos (by simpa using hn), habs, Int.neg_mul, Int.neg_neg]
  · have habs : (n.natAbs : Int) = n := by omega
    rw [if_neg (by simpa using hn), habs]

theorem natAbs_signedUnits (x : Binary64) : x.signedUnits.natAbs = x.units := by
  unfold signedUnits
  split <;> omega

/-- An integer is made of that many ones. -/
theorem toInt?_eq_some_iff {x : Binary64} {n : Int} :
    x.toInt? = some n ↔ x.signedUnits = n * one := by
  have hone : (one : Int) ≠ 0 := by
    have hpos := one_pos
    omega
  have hunits := x.natAbs_signedUnits
  unfold toInt?
  constructor
  · intro h
    split at h
    · next hmod =>
        have hdvd : (one : Int) ∣ x.signedUnits := by
          rw [Int.ofNat_dvd_left, hunits]
          exact Nat.dvd_of_mod_eq_zero hmod
        rw [← Option.some.inj h, Int.ediv_mul_cancel hdvd]
    · cases h
  · intro h
    have hmod : x.units % one = 0 := by
      rw [← hunits, h, Int.natAbs_mul, Int.natAbs_natCast, Nat.mul_mod_left]
    rw [if_pos hmod, h, Int.mul_ediv_cancel _ hone]

theorem toInt?_zero (negative : Bool) : (zero negative).toInt? = some 0 := by
  have hunits : (zero negative).units = 0 := unitsOfRank_of_lt (Nat.two_pow_pos 52)
  rw [toInt?_eq_some_iff, signedUnits, hunits, Int.zero_mul]
  exact ite_self 0

theorem log2_mul_one {n : Nat} (hn : n ≠ 0) : Nat.log2 (n * one) = Nat.log2 n + 1074 := by
  have hpos : n * one ≠ 0 := Nat.mul_ne_zero hn (Nat.ne_of_gt one_pos)
  have hlow := Nat.log2_self_le hn
  have hhigh : n < 2 ^ (Nat.log2 n + 1) := Nat.lt_log2_self
  rw [Nat.log2_eq_iff hpos, Nat.add_right_comm, Nat.pow_add, Nat.pow_add, ← one]
  exact ⟨Nat.mul_le_mul_right _ hlow, Nat.mul_lt_mul_of_pos_right hhigh one_pos⟩

theorem Representable.mul_one {n : Nat} (h : Representable n) : Representable (n * one) := by
  by_cases hzero : n = 0
  · rwa [hzero, Nat.zero_mul, ← hzero]
  have hpow : 2 ^ (Nat.log2 n + 1074 - 52) ∣ 2 ^ (Nat.log2 n - 52 + 1074) := by
    apply Nat.pow_dvd_pow 2
    omega
  rw [Nat.pow_add 2 (Nat.log2 n - 52), ← one] at hpow
  rw [Representable, log2_mul_one hzero]
  exact Nat.dvd_trans hpow (Nat.mul_dvd_mul_right h one)

theorem representable_of_le {n : Nat} (hn : n ≤ 2 ^ 53) : Representable n := by
  unfold Representable
  rcases Nat.lt_or_eq_of_le hn with hlt | rfl
  · have hlog : Nat.log2 n - 52 = 0 := by
      by_cases hzero : n = 0
      · rw [hzero, Nat.log2_zero]
      · have hlt53 : Nat.log2 n < 53 := (Nat.log2_lt hzero).2 hlt
        omega
    rw [hlog]
    exact Nat.one_dvd n
  · decide

/-- An integer up to `2 ^ 53` in magnitude is not rounded. -/
theorem exists_ofUnits_int {n : Int} (hn : n.natAbs ≤ 2 ^ 53) :
    ∃ x, ofUnits (decide (n < 0)) (n.natAbs * one) 1 = some x ∧ x.toInt? = some n := by
  have hlog : Nat.log2 (n.natAbs * one) < 2097 := by
    by_cases hzero : n.natAbs = 0
    · rw [hzero, Nat.zero_mul]
      decide
    · have hlt : Nat.log2 n.natAbs < 54 := (Nat.log2_lt hzero).2 (by omega)
      rw [log2_mul_one hzero]
      omega
  obtain ⟨x, hx, hsign, hunits⟩ :=
    exists_ofUnits (representable_of_le hn).mul_one hlog (decide (n < 0))
  exact ⟨x, hx, toInt?_eq_some_iff.2 (signedUnits_of_units hunits hsign)⟩

theorem exists_ofInt {n : Int} (hn : n.natAbs ≤ 2 ^ 53) :
    ∃ x, ofInt n = some x ∧ x.toInt? = some n :=
  exists_ofUnits_int hn

/-- A sum of integers is not rounded if it is at most `2 ^ 53` in magnitude. -/
theorem exists_add {x y : Binary64} {m n : Int} (hx : x.toInt? = some m) (hy : y.toInt? = some n)
    (hsum : (m + n).natAbs ≤ 2 ^ 53) :
    ∃ z, x.add y = some z ∧ z.toInt? = some (m + n) := by
  have hone : (0 : Int) < one := by
    have hpos := one_pos
    omega
  have hunits : x.signedUnits + y.signedUnits = (m + n) * one := by
    rw [toInt?_eq_some_iff.1 hx, toInt?_eq_some_iff.1 hy, Int.add_mul]
  unfold add
  simp only [hunits]
  by_cases hzero : m + n = 0
  · refine ⟨_, if_pos (by rw [hzero, Int.zero_mul]), ?_⟩
    rw [hzero, toInt?_zero]
  · obtain ⟨z, hz, hint⟩ := exists_ofUnits_int hsum
    have hsign : (m + n) * (one : Int) < 0 ↔ m + n < 0 := by
      have hmul := @Int.mul_lt_mul_right one (m + n) 0 hone
      rwa [Int.zero_mul] at hmul
    refine ⟨z, ?_, hint⟩
    rw [if_neg (Int.mul_ne_zero hzero (Int.ne_of_gt hone)), Int.natAbs_mul, Int.natAbs_natCast,
      decide_eq_decide.2 hsign]
    exact hz

end Binary64

/-! ## Keys -/

namespace Number

/-- The integer that the number is. -/
def toInt? : Number → Option Int
  | .whole n => some n.val
  | .float x => x.toInt?

/-- As a key an integer is spelled in one way, be it a whole number or a floating-point one. -/
theorem key_of_toInt? {m : Number} {n : Int} (h : m.toInt? = some n) (hn : n.natAbs < 10 ^ 21) :
    m.key = n.repr := by
  cases m with
  | whole m =>
      obtain rfl := Option.some.inj h
      rfl
  | float x =>
      have hint : x.toInt? = some n := h
      rw [key, hint]
      exact if_pos hn

/-- Up to `2 ^ 53` an integer keeps its value as a floating-point number. -/
theorem exists_toBinary64 {m : Number} {n : Int} (h : m.toInt? = some n)
    (hn : n.natAbs ≤ 2 ^ 53) : ∃ x, m.toBinary64 = some x ∧ x.toInt? = some n := by
  cases m with
  | whole m =>
      obtain rfl := Option.some.inj h
      exact Binary64.exists_ofInt hn
  | float x => exact ⟨x, rfl, h⟩

end Number

/-- The field is given as the decimal spelling of the number, or as this number. -/
inductive Field.AsksFor (n : Nat) : Field → Prop
  | name : AsksFor n (.name n.repr)
  | index {m : Number} (h : m.toInt? = some n) : AsksFor n (.index m)

theorem Field.AsksFor.key_eq {n : Nat} (hn : n < 10 ^ 21) {field : Field}
    (h : field.AsksFor n) : field.key = n.repr := by
  cases h with
  | name => rfl
  | index h => exact Number.key_of_toInt? h (by omega)

end Pluck
