import Pluck.Proofs.Integers
import Pluck.Proofs.Numerals
import Pluck.Proofs.Walks
import Pluck.Selector.Text

/-!
Reading numbers back from their texts.

A whole number is always read back (`Number.readsBack_whole`). Of a floating-point number this
depends on its text. If the text is read as an equal number, that is the number itself
(`Number.ReadsBack.read_text`), also in front of other text (`Json.readValue_of_read`).
-/

namespace Pluck
namespace Json

/-! ## Whole numbers -/

theorem le_ofDigitChars (digits : List Char) (read : Nat) :
    read ≤ Nat.ofDigitChars 10 digits read := by
  induction digits generalizing read with
  | nil => exact Nat.le_refl read
  | cons c digits ih =>
      rw [Nat.ofDigitChars_cons]
      have hmore := ih (10 * read + (c.toNat - '0'.toNat))
      omega

theorem takeDigits_of_isDigit {digits : List Char} (h : ∀ c ∈ digits, c.isDigit = true)
    {significand : Nat} (hbound : Nat.ofDigitChars 10 digits significand < 2 ^ 64) :
    takeDigits significand digits =
      (Nat.ofDigitChars 10 digits significand, digits.length, []) := by
  induction digits generalizing significand with
  | nil => rfl
  | cons c digits ih =>
      rw [Nat.ofDigitChars_cons, Nat.mul_comm] at hbound ⊢
      have hlonger : significand * 10 + digitValue c < 2 ^ 64 :=
        Nat.lt_of_le_of_lt (le_ofDigitChars digits _) hbound
      have hrest := ih (fun d hd => h d (List.mem_cons_of_mem _ hd)) hbound
      rw [takeDigits, if_pos ⟨h c List.mem_cons_self, hlonger⟩]
      exact congrArg (fun taken => (taken.1, taken.2.1 + 1, taken.2.2)) hrest

theorem readNumber_toDigits (negative : Bool) {n : Nat} (hn : n < 2 ^ 64) :
    readNumber negative (Nat.toDigits 10 n) = wholeOfParts negative n [] := by
  rcases Nat.eq_zero_or_pos n with rfl | hpos
  · rfl
  · obtain ⟨c, digits, hdigits, hc⟩ := toDigits_eq_cons n
    have hall : ∀ d ∈ c :: digits, d.isDigit = true := fun d hd =>
      isDigit_of_mem_toDigits (hdigits ▸ hd)
    have hvalue : Nat.ofDigitChars 10 digits (digitValue c) = n := by
      have hwhole : Nat.ofDigitChars 10 (Nat.toDigits 10 n) 0 = n := Nat.ofDigitChars_ten_toDigits
      rwa [hdigits, Nat.ofDigitChars_cons, Nat.mul_zero, Nat.zero_add] at hwhole
    have htaken := takeDigits_of_isDigit (fun d hd => hall d (List.mem_cons_of_mem _ hd))
      (hvalue.symm ▸ hn)
    rw [hdigits, readNumber]
    · rw [if_pos (hall c List.mem_cons_self), htaken, hvalue]
      rfl
    · exact hc hpos

end Json

/-! ## Texts of numbers -/

/-- The sign before a magnitude. -/
def signChars (negative : Bool) : List Char := if negative then ['-'] else []

theorem Whole.toList_text (n : Whole) :
    n.text.toList = signChars (decide (n.val < 0)) ++ Nat.toDigits 10 n.val.natAbs := by
  rw [Whole.text, Int.repr_eq_if]
  split
  · next h =>
      rw [Nat.toList_repr, signChars, if_neg (by simp [h]), ← Int.toNat_of_nonneg h]
      rfl
  · next h =>
      rw [String.toList_append, Nat.toList_repr, signChars, if_pos (by simpa using h)]
      have hnat : (-n.val).toNat = n.val.natAbs := by omega
      rw [hnat]
      rfl

theorem Binary64.shortest_digits (x : Binary64) :
    x.shortest.digits ≠ [] ∧ ∀ c ∈ x.shortest.digits, c.isDigit = true := by
  have hzero : ∀ c ∈ ['0'], c.isDigit = true := List.forall_mem_singleton.2 rfl
  unfold shortest
  split
  · exact ⟨List.cons_ne_nil _ _, hzero⟩
  · split
    · exact ⟨List.cons_ne_nil _ _, hzero⟩
    · exact ⟨Nat.toDigits_ne_nil, fun c hc => isDigit_of_mem_toDigits hc⟩

theorem ne_of_isDigit {c : Char} (h : c.isDigit = true) {d : Char} (hd : d.isDigit = false) :
    c ≠ d := by
  rintro rfl
  rw [h] at hd
  cases hd

theorem isSpace_eq_false_of_isDigit {c : Char} (h : c.isDigit = true) : Json.isSpace c = false := by
  have hspace : c ≠ ' ' := ne_of_isDigit h rfl
  have hnewline : c ≠ '\n' := ne_of_isDigit h rfl
  have htab : c ≠ '\t' := ne_of_isDigit h rfl
  have hreturn : c ≠ '\r' := ne_of_isDigit h rfl
  simp [Json.isSpace, hspace, hnewline, htab, hreturn]

/-- There are no blanks in a numeral. -/
theorem Numeral.not_isSpace {n : Numeral} (hdigits : ∀ c ∈ n.digits, c.isDigit = true) :
    ∀ c ∈ n.chars, Json.isSpace c = false := by
  have hn : ∀ c ∈ n.digits, Json.isSpace c = false := fun c hc =>
    isSpace_eq_false_of_isDigit (hdigits c hc)
  have htake : ∀ k, ∀ c ∈ n.digits.take k, Json.isSpace c = false := fun k c hc =>
    hn c (List.mem_of_mem_take hc)
  have hdrop : ∀ k, ∀ c ∈ n.digits.drop k, Json.isSpace c = false := fun k c hc =>
    hn c (List.mem_of_mem_drop hc)
  have hzeros : ∀ k, ∀ c ∈ List.replicate k '0', Json.isSpace c = false := fun k c hc =>
    (List.eq_of_mem_replicate hc) ▸ rfl
  have hexponent : ∀ c ∈ Nat.toDigits 10 n.exponent.natAbs, Json.isSpace c = false := fun c hc =>
    isSpace_eq_false_of_isDigit (isDigit_of_mem_toDigits hc)
  have hone : ∀ {d}, Json.isSpace d = false → ∀ c ∈ [d], Json.isSpace c = false := fun h =>
    List.forall_mem_singleton.2 h
  unfold chars
  split
  · simp only [List.forall_mem_append]
    exact ⟨⟨List.forall_mem_cons.2 ⟨rfl, hone rfl⟩, hzeros _⟩, hn⟩
  · split
    · simp only [List.forall_mem_append]
      refine ⟨⟨⟨htake _, hzeros _⟩, hone rfl⟩, ?_⟩
      split
      · exact hone rfl
      · exact hdrop _
    · simp only [List.forall_mem_append]
      refine ⟨⟨⟨⟨htake 1, ?_⟩, hone rfl⟩, ?_⟩, hexponent⟩
      · split
        · exact List.forall_mem_nil _
        · exact List.forall_mem_cons.2 ⟨rfl, hdrop 1⟩
      · split
        · exact hone rfl
        · exact hone rfl

theorem Numeral.exists_chars_eq_cons {n : Numeral} (hne : n.digits ≠ [])
    (hdigits : ∀ c ∈ n.digits, c.isDigit = true) :
    ∃ c tail, n.chars = c :: tail ∧ c.isDigit = true := by
  obtain ⟨d, ds, hd⟩ := List.exists_cons_of_ne_nil hne
  have hfirst : d.isDigit = true := hdigits d (hd ▸ List.mem_cons_self)
  unfold chars
  split
  · exact ⟨'0', _, rfl, rfl⟩
  · split
    · simp only [hd, List.take_succ_cons, List.cons_append]
      exact ⟨d, _, rfl, hfirst⟩
    · simp only [hd, List.take_succ_cons, List.cons_append]
      exact ⟨d, _, rfl, hfirst⟩

/-- The text of a number is a sign and a magnitude that starts with a digit, without blanks. -/
theorem Number.exists_chars_eq (n : Number) : ∃ negative c tail,
    n.chars = signChars negative ++ c :: tail ∧ c.isDigit = true ∧
      ∀ d ∈ c :: tail, Json.isSpace d = false := by
  cases n with
  | whole n =>
      obtain ⟨c, tail, htext, -⟩ := toDigits_eq_cons n.val.natAbs
      have hdigits : ∀ d ∈ c :: tail, d.isDigit = true := fun d hd =>
        isDigit_of_mem_toDigits (htext ▸ hd)
      refine ⟨decide (n.val < 0), c, tail, ?_, hdigits c List.mem_cons_self, fun d hd => ?_⟩
      · rw [chars, Whole.toList_text, htext]
      · exact isSpace_eq_false_of_isDigit (hdigits d hd)
  | float x =>
      obtain ⟨hne, hdigits⟩ := x.shortest_digits
      obtain ⟨c, tail, htext, hc⟩ := Numeral.exists_chars_eq_cons hne hdigits
      have hspace := Numeral.not_isSpace hdigits
      rw [htext] at hspace
      refine ⟨x.negative, c, tail, ?_, hc, hspace⟩
      rw [chars, Binary64.chars, htext, signChars]

namespace Json

theorem readValue_scalar {c : Char} (hspace : isSpace c = false) (hbracket : c ≠ '[')
    (hbrace : c ≠ '\x7b') (levels : Nat) (rest : List Char) :
    readValue levels (c :: rest) = readScalar c rest := by
  unfold readValue skipSpace
  rw [List.dropWhile_cons_of_neg (by simp [hspace])]
  simp only [if_neg hbracket, if_neg hbrace]

theorem readValue_signed {c : Char} (hc : c.isDigit = true) (negative : Bool) (levels : Nat)
    (text : List Char) :
    readValue levels (signChars negative ++ c :: text) =
      (readNumber negative (c :: text)).map .number := by
  have hne : ∀ {d : Char}, d.isDigit = false → c ≠ d := ne_of_isDigit hc
  cases negative with
  | true => exact readValue_scalar rfl (by decide) (by decide) levels _
  | false =>
      have hspace := isSpace_eq_false_of_isDigit hc
      refine (readValue_scalar hspace (hne rfl) (hne rfl) levels text).trans ?_
      unfold readScalar
      rw [if_neg (hne rfl), if_neg (hne rfl), if_neg (hne rfl), if_neg (hne rfl),
        if_neg (hne rfl), if_pos hc]

theorem readEnd_eq_ok_iff {text : List Char} : readEnd text = .ok () ↔ skipSpace text = [] := by
  unfold readEnd
  split <;> simp_all

/-- A text is read as the value in front, if nothing but blanks follows. -/
theorem read_eq_ok_iff {text : String} {v : Json} :
    read text = .ok v ↔
      ∃ left, readValue maxDepth text.toList = .ok (v, left) ∧ skipSpace left = [] := by
  unfold read readChars?
  simp only [← readEnd_eq_ok_iff]
  cases readValue maxDepth text.toList with
  | error fault => simp [bind, Except.bind]
  | ok found =>
      obtain ⟨value, left⟩ := found
      cases hend : readEnd left with
      | error fault => simp [bind, Except.bind, hend]
      | ok => simp [bind, Except.bind, pure, Except.pure, hend]

/-- A text that is read as a number is so in front of other texts. -/
theorem readValue_of_read {n m : Number} (h : read n.text = .ok (.number m)) (levels : Nat)
    {rest : List Char} (hrest : Ends rest) :
    readValue levels (n.chars ++ rest) = .ok (.number m, rest) := by
  obtain ⟨negative, c, tail, hchars, hc, hspace⟩ := n.exists_chars_eq
  obtain ⟨left, hread, hleft⟩ := read_eq_ok_iff.1 h
  have hnumber : readNumber negative (c :: tail) = .ok (m, left) := by
    rw [Number.text, String.toList_ofList, hchars, readValue_signed hc] at hread
    cases hfound : readNumber negative (c :: tail) with
    | error fault =>
        rw [hfound] at hread
        cases hread
    | ok found =>
        rw [hfound] at hread
        obtain ⟨hvalue, hrest⟩ := Prod.mk.inj (Except.ok.inj hread)
        exact congrArg Except.ok (Prod.ext (Json.number.inj hvalue) hrest)
  obtain ⟨hsuffix, hmore⟩ := readNumber_alone negative (c :: tail) m left hnumber
  -- the text left over would have to be blank
  have hnil : left = [] := by
    rw [skipSpace, List.dropWhile_eq_nil_iff] at hleft
    refine List.eq_nil_iff_forall_not_mem.2 fun d hd => ?_
    have hblank := hleft d hd
    rw [hspace d (hsuffix.subset hd)] at hblank
    cases hblank
  subst hnil
  have hall := hmore rest hrest
  rw [hchars, List.append_assoc, List.cons_append, readValue_signed hc]
  rw [List.cons_append] at hall
  rw [hall]
  rfl

end Json

/-- The text of the number is read as an equal number. -/
def Number.ReadsBack (n : Number) : Prop :=
  ∃ m, Json.read n.text = .ok (.number m) ∧ m.equal n = true

theorem Whole.ofInt?_val (n : Whole) : Whole.ofInt? n.val = some n :=
  dif_pos ⟨n.lower, n.upper⟩

theorem Number.readsBack_whole (n : Whole) : (Number.whole n).ReadsBack := by
  have hbound : n.val.natAbs < 2 ^ 64 := by
    have hlower := n.lower
    have hupper := n.upper
    omega
  have hnumber : Json.wholeOfParts (decide (n.val < 0)) n.val.natAbs [] = .ok (.whole n, []) := by
    have hvalue : (if decide (n.val < 0) = true then -(n.val.natAbs : Int) else n.val.natAbs) =
        n.val := by
      simp only [decide_eq_true_eq]
      split <;> omega
    have hsign : ¬ (decide (n.val < 0) = true ∧ n.val.natAbs = 0) := by
      rw [decide_eq_true_eq]
      omega
    unfold Json.wholeOfParts
    simp only [hvalue, n.ofInt?_val]
    rw [if_neg hsign]
  obtain ⟨c, tail, htext, -⟩ := toDigits_eq_cons n.val.natAbs
  have hc : c.isDigit = true := isDigit_of_mem_toDigits (htext ▸ List.mem_cons_self)
  refine ⟨.whole n, Json.read_eq_ok_iff.2 ⟨[], ?_, rfl⟩, Number.equal_iff.2 (Or.inl rfl)⟩
  rw [Number.text, String.toList_ofList, Number.chars, Whole.toList_text, htext,
    Json.readValue_signed hc, ← htext, Json.readNumber_toDigits _ hbound, hnumber]
  rfl

/-- A digit after the point counts tenths. -/
theorem Json.readNumber_tenths {d : Char} (hd : d.isDigit = true) (negative : Bool) :
    readNumber negative ['0', '.', d] = floatOfParts negative (digitValue d) (-1) [] := by
  have hsmall : digitValue d < 2 ^ 64 := by
    have hhigh : d.toNat ≤ 57 := (toNat_of_isDigit hd).2
    have hvalue : digitValue d = d.toNat - 48 := rfl
    omega
  have htaken : takeDigits 0 [d] = (digitValue d, 1, []) := by
    simp only [takeDigits, Nat.zero_mul, Nat.zero_add, hd, true_and, if_pos hsmall]
  have hexponent : (0 : Int) - (1 : Nat) = -1 := by decide
  have hpoint : ¬ startsWithDigit ['.', d] = true := Bool.false_ne_true
  rw [readNumber, if_neg hpoint]
  unfold afterWhole
  simp only
  unfold fractionPart
  simp only [htaken]
  rw [if_neg (by decide), if_neg (by decide)]
  unfold afterFraction
  simp only
  rw [hexponent]

theorem Json.floatOfParts_of_eq {significand : Nat} {exponent : Int} {x : Binary64}
    (h : (Binary64.ofInt significand).bind (scale · exponent) = some x) (negative : Bool)
    (rest : List Char) : floatOfParts negative significand exponent rest =
      .ok (.float (if negative then x.neg else x), rest) := by
  rw [floatOfParts, h]
  rfl

theorem Number.read_text_zero (negative : Bool) :
    Json.read (Number.float (Binary64.zero negative)).text =
      .ok (.number (.float (Binary64.zero negative))) := by
  have hchars : (Number.float (Binary64.zero negative)).text.toList =
      signChars negative ++ ['0', '.', '0'] := by
    rw [Number.text, String.toList_ofList]
    cases negative <;> rfl
  have hzero : (Binary64.ofInt (Json.digitValue '0')).bind (Json.scale · (-1)) =
      some (Binary64.zero false) := by
    have hsignificand : Binary64.ofInt (Json.digitValue '0') = some (Binary64.zero false) := by
      decide +kernel
    rw [hsignificand, Option.bind_some, Json.scale, if_pos (by decide)]
    decide +kernel
  refine Json.read_eq_ok_iff.2 ⟨[], ?_, rfl⟩
  rw [hchars, Json.readValue_signed rfl, Json.readNumber_tenths rfl,
    Json.floatOfParts_of_eq hzero]
  cases negative <;> rfl

/-- Equal numbers with different texts are the two zeros, and each of these is read as itself. -/
theorem Number.ReadsBack.read_text {n : Number} (h : n.ReadsBack) :
    Json.read n.text = .ok (.number n) := by
  obtain ⟨m, hread, hequal⟩ := h
  rcases Number.equal_iff.1 hequal with rfl | ⟨-, y, -, rfl, -, hy⟩
  · exact hread
  · have hzero : y = Binary64.zero y.negative := by
      obtain ⟨negative, rank, _⟩ := y
      have hrank : rank = 0 := beq_iff_eq.1 hy
      subst hrank
      rfl
    rw [hzero]
    exact Number.read_text_zero y.negative

end Pluck
