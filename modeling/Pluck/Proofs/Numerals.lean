import Pluck.Json.Numeral

/-!
Numbers in front of other text.

A number ends where no character follows that could belong to one (`Json.Ends`). The reader of
numbers goes from one part to the next, and each part is read the same whatever follows the number
(`Json.ReadsAlone`); so is the number as a whole (`Json.readNumber_alone`).
-/

namespace Pluck
namespace Json

/-- In front stands no character that could belong to a number. -/
def Ends (rest : List Char) : Prop :=
  ∀ c ∈ rest.head?, c.isDigit = false ∧ c ≠ '.' ∧ c ≠ 'e' ∧ c ≠ 'E'

/-- What is read does not depend on the text after the number. -/
def ReadsAlone (reader : List Char → Reading Flaw Number) : Prop :=
  ∀ text n left, reader text = .ok (n, left) →
    left <:+ text ∧ ∀ rest, Ends rest → reader (text ++ rest) = .ok (n, left ++ rest)

theorem ReadsAlone.cons {reader : List Char → Reading Flaw Number} (hreader : ReadsAlone reader)
    (c : Char) {text left : List Char} {n : Number} (h : reader text = .ok (n, left)) :
    left <:+ c :: text ∧ ∀ rest, Ends rest → reader (text ++ rest) = .ok (n, left ++ rest) := by
  obtain ⟨hsuffix, hmore⟩ := hreader text n left h
  exact ⟨hsuffix.trans (List.suffix_cons c text), hmore⟩

theorem append_ne_cons {d : Char} {text rest : List Char} (hrest : ∀ c ∈ rest.head?, c ≠ d)
    (h : ∀ more, text = d :: more → False) (more : List Char) : text ++ rest ≠ d :: more := by
  cases text with
  | nil =>
      rintro rfl
      exact hrest d rfl rfl
  | cons c text =>
      intro e
      obtain ⟨rfl, -⟩ := List.cons.inj e
      exact h text rfl

/-! ## Runs of digits -/

section Run

variable {rest : List Char} (hrest : Ends rest)

include hrest

theorem startsWithDigit_of_ends : startsWithDigit rest = false := by
  cases rest with
  | nil => rfl
  | cons c rest => exact (hrest c rfl).1

theorem dropWhile_isDigit_of_ends : rest.dropWhile Char.isDigit = rest := by
  cases rest with
  | nil => rfl
  | cons c rest => simp [(hrest c rfl).1]

theorem takeWhile_isDigit_of_ends : rest.takeWhile Char.isDigit = [] := by
  cases rest with
  | nil => rfl
  | cons c rest => simp [(hrest c rfl).1]

theorem startsWithDigit_append (text : List Char) :
    startsWithDigit (text ++ rest) = startsWithDigit text := by
  cases text with
  | nil => exact startsWithDigit_of_ends hrest
  | cons c text => rfl

theorem dropWhile_isDigit_append (text : List Char) :
    (text ++ rest).dropWhile Char.isDigit = text.dropWhile Char.isDigit ++ rest := by
  induction text with
  | nil => exact dropWhile_isDigit_of_ends hrest
  | cons c text ih => cases hc : c.isDigit <;> simp [hc, ih]

theorem takeWhile_isDigit_append (text : List Char) :
    (text ++ rest).takeWhile Char.isDigit = text.takeWhile Char.isDigit := by
  induction text with
  | nil => exact takeWhile_isDigit_of_ends hrest
  | cons c text ih => cases hc : c.isDigit <;> simp [hc, ih]

theorem takeDigits_append (significand : Nat) (text : List Char) :
    takeDigits significand (text ++ rest) =
      ((takeDigits significand text).1, (takeDigits significand text).2.1,
        (takeDigits significand text).2.2 ++ rest) := by
  induction text generalizing significand with
  | nil =>
      cases rest with
      | nil => rfl
      | cons c rest => simp [takeDigits, (hrest c rfl).1]
  | cons c text ih =>
      rw [List.cons_append, takeDigits, takeDigits]
      split
      · rw [ih]
      · rfl

end Run

theorem takeDigits_suffix (significand : Nat) (text : List Char) :
    (takeDigits significand text).2.2 <:+ text := by
  induction text generalizing significand with
  | nil => exact List.suffix_refl []
  | cons c text ih =>
      rw [takeDigits]
      split
      · exact (ih _).trans (List.suffix_cons c text)
      · exact List.suffix_refl _

/-! ## Parts of a number -/

theorem floatOfMagnitude_alone (negative : Bool) (found : Option Binary64) :
    ReadsAlone fun text => floatOfMagnitude negative text found := by
  intro text n left h
  cases found with
  | none => cases h
  | some x =>
      obtain ⟨rfl, rfl⟩ := Prod.mk.inj (Except.ok.inj h)
      exact ⟨List.suffix_refl _, fun rest _ => rfl⟩

theorem floatOfParts_alone (negative : Bool) (significand : Nat) (exponent : Int) :
    ReadsAlone (floatOfParts negative significand exponent) :=
  floatOfMagnitude_alone negative _

theorem wholeOfParts_alone (negative : Bool) (significand : Nat) :
    ReadsAlone (wholeOfParts negative significand) := by
  intro text n left h
  unfold wholeOfParts at h ⊢
  simp only at h ⊢
  cases hx : Whole.ofInt? (if negative then -(significand : Int) else significand) with
  | none =>
      rw [hx] at h
      exact floatOfParts_alone negative significand 0 text n left h
  | some value =>
      rw [hx] at h
      simp only at h ⊢
      split at h
      · next hzero =>
          obtain ⟨rfl, rfl⟩ := Prod.mk.inj (Except.ok.inj h)
          exact ⟨List.suffix_refl _, fun rest _ => if_pos hzero⟩
      · next hzero =>
          obtain ⟨rfl, rfl⟩ := Prod.mk.inj (Except.ok.inj h)
          exact ⟨List.suffix_refl _, fun rest _ => if_neg hzero⟩

theorem exponentDigits_of_ends {rest : List Char} (hrest : Ends rest) (negative : Bool)
    (significand : Nat) (exponent : Int) (down : Bool) (read : Nat) :
    exponentDigits negative significand exponent down read rest =
      floatOfParts negative significand (if down then exponent - read else exponent + read)
        rest := by
  cases rest with
  | nil => rfl
  | cons c rest => rw [exponentDigits, if_neg (by simp [(hrest c rfl).1])]

theorem exponentDigits_alone (negative : Bool) (significand : Nat) (exponent : Int) (down : Bool)
    (read : Nat) : ReadsAlone (exponentDigits negative significand exponent down read) := by
  intro text
  induction text generalizing read with
  | nil =>
      intro n left h
      obtain ⟨hsuffix, hfloat⟩ := floatOfParts_alone _ _ _ [] n left h
      refine ⟨hsuffix, fun rest hrest => ?_⟩
      rw [List.nil_append, exponentDigits_of_ends hrest]
      exact hfloat rest hrest
  | cons c text ih =>
      intro n left h
      simp only [List.cons_append, exponentDigits] at h ⊢
      by_cases hdigit : c.isDigit = true
      · simp only [if_pos hdigit] at h ⊢
        by_cases hshort : read * 10 + digitValue c < 2 ^ 31
        · simp only [if_pos hshort] at h ⊢
          obtain ⟨hsuffix, hmore⟩ := ih _ n left h
          exact ⟨hsuffix.trans (List.suffix_cons c text), hmore⟩
        · simp only [if_neg hshort] at h ⊢
          split at h
          · cases h
          · next hzero =>
              obtain ⟨rfl, rfl⟩ := Prod.mk.inj (Except.ok.inj h)
              refine ⟨(List.dropWhile_suffix _).trans (List.suffix_cons c text), ?_⟩
              intro rest hrest
              rw [if_neg hzero, dropWhile_isDigit_append hrest]
      · simp only [if_neg hdigit] at h ⊢
        exact floatOfParts_alone _ _ _ (c :: text) n left h

theorem unsignedExponent_alone (negative : Bool) (significand : Nat) (exponent : Int)
    (down : Bool) : ReadsAlone (unsignedExponent negative significand exponent down) := by
  intro text n left h
  cases text with
  | nil => cases h
  | cons c text =>
      simp only [List.cons_append, unsignedExponent] at h ⊢
      by_cases hdigit : c.isDigit = true
      · simp only [if_pos hdigit] at h ⊢
        exact (exponentDigits_alone _ _ _ _ _).cons c h
      · simp only [if_neg hdigit] at h
        cases h

theorem exponentPart_alone (negative : Bool) (significand : Nat) (exponent : Int) :
    ReadsAlone (exponentPart negative significand exponent) := by
  intro text n left h
  unfold exponentPart at h ⊢
  split at h
  · exact (unsignedExponent_alone _ _ _ _).cons '+' h
  · exact (unsignedExponent_alone _ _ _ _).cons '-' h
  · next hplus hminus =>
      obtain ⟨hsuffix, hmore⟩ := unsignedExponent_alone _ _ _ _ text n left h
      refine ⟨hsuffix, fun rest hrest => ?_⟩
      cases text with
      | nil => cases h
      | cons c text =>
          split
          · next e => cases e; exact absurd rfl (hplus text)
          · next e => cases e; exact absurd rfl (hminus text)
          · exact hmore rest hrest

theorem afterFraction_alone (negative : Bool) (significand : Nat) (exponent : Int) :
    ReadsAlone (afterFraction negative significand exponent) := by
  intro text n left h
  unfold afterFraction at h ⊢
  split at h
  · exact (exponentPart_alone _ _ _).cons 'e' h
  · exact (exponentPart_alone _ _ _).cons 'E' h
  · next he hE =>
      obtain ⟨hsuffix, hmore⟩ := floatOfParts_alone _ _ _ text n left h
      refine ⟨hsuffix, fun rest hrest => ?_⟩
      split
      · next e => exact absurd e (append_ne_cons (fun c hc => (hrest c hc).2.2.1) he _)
      · next e => exact absurd e (append_ne_cons (fun c hc => (hrest c hc).2.2.2) hE _)
      · exact hmore rest hrest

theorem fractionPart_alone (negative : Bool) (significand : Nat) (exponent : Int) :
    ReadsAlone (fractionPart negative significand exponent) := by
  intro text n left h
  have htaken := takeDigits_suffix significand text
  unfold fractionPart at h ⊢
  simp only at h ⊢
  split at h
  · next hdigit =>
      obtain ⟨hsuffix, hmore⟩ := afterFraction_alone _ _ _ _ n left h
      refine ⟨(hsuffix.trans (List.dropWhile_suffix _)).trans htaken, fun rest hrest => ?_⟩
      rw [takeDigits_append hrest, startsWithDigit_append hrest, if_pos hdigit,
        dropWhile_isDigit_append hrest]
      exact hmore rest hrest
  · next hdigit =>
      split at h
      · cases h
      · next hcount =>
          obtain ⟨hsuffix, hmore⟩ := afterFraction_alone _ _ _ _ n left h
          refine ⟨hsuffix.trans htaken, fun rest hrest => ?_⟩
          rw [takeDigits_append hrest, startsWithDigit_append hrest, if_neg hdigit, if_neg hcount]
          exact hmore rest hrest

/-- A point or the letter of an exponent decides how the reading goes on. -/
theorem ReadsAlone.branch {point exponent other reader : List Char → Reading Flaw Number}
    (hpoint : ReadsAlone point) (hexponent : ReadsAlone exponent) (hother : ReadsAlone other)
    (hreader : ∀ text, reader text = match text with
      | '.' :: rest => point rest
      | 'e' :: rest => exponent rest
      | 'E' :: rest => exponent rest
      | rest => other rest) : ReadsAlone reader := by
  intro text n left h
  simp only [hreader] at h ⊢
  split at h
  · exact hpoint.cons '.' h
  · exact hexponent.cons 'e' h
  · exact hexponent.cons 'E' h
  · next hp he hE =>
      obtain ⟨hsuffix, hmore⟩ := hother text n left h
      refine ⟨hsuffix, fun rest hrest => ?_⟩
      split
      · next e => exact absurd e (append_ne_cons (fun c hc => (hrest c hc).2.1) hp _)
      · next e => exact absurd e (append_ne_cons (fun c hc => (hrest c hc).2.2.1) he _)
      · next e => exact absurd e (append_ne_cons (fun c hc => (hrest c hc).2.2.2) hE _)
      · exact hmore rest hrest

theorem afterWhole_alone (negative : Bool) (significand : Nat) :
    ReadsAlone (afterWhole negative significand) := by
  refine (fractionPart_alone negative significand 0).branch
    (exponentPart_alone negative significand 0) (wholeOfParts_alone negative significand)
    fun text => ?_
  unfold afterWhole
  rfl

theorem afterLongWhole_alone (negative : Bool) (significand : Nat) (exponent : Int) :
    ReadsAlone (afterLongWhole negative significand exponent) := by
  refine (fractionPart_alone negative significand exponent).branch
    (exponentPart_alone negative significand exponent)
    (floatOfParts_alone negative significand exponent) fun text => ?_
  unfold afterLongWhole
  rfl

/-- A number is read the same whatever follows it. -/
theorem readNumber_alone (negative : Bool) : ReadsAlone (readNumber negative) := by
  intro text n left h
  unfold readNumber at h ⊢
  split at h
  · cases h
  · next text =>
      split at h
      · cases h
      · next hdigit =>
          obtain ⟨hsuffix, hmore⟩ := (afterWhole_alone _ _).cons '0' h
          refine ⟨hsuffix, fun rest hrest => ?_⟩
          simp only [List.cons_append]
          rw [startsWithDigit_append hrest, if_neg hdigit]
          exact hmore rest hrest
  · next c text hzero =>
      have htaken := (takeDigits_suffix (digitValue c) text).trans (List.suffix_cons c text)
      split at h
      · next hfirst =>
          simp only at h
          split at h
          · next hdigit =>
              obtain ⟨hsuffix, hmore⟩ := afterLongWhole_alone _ _ _ _ n left h
              refine ⟨(hsuffix.trans (List.dropWhile_suffix _)).trans htaken, fun rest hrest => ?_⟩
              simp only [List.cons_append, if_pos hfirst]
              rw [takeDigits_append hrest, startsWithDigit_append hrest, if_pos hdigit,
                takeWhile_isDigit_append hrest, dropWhile_isDigit_append hrest]
              exact hmore rest hrest
          · next hdigit =>
              obtain ⟨hsuffix, hmore⟩ := afterWhole_alone _ _ _ n left h
              refine ⟨hsuffix.trans htaken, fun rest hrest => ?_⟩
              simp only [List.cons_append, if_pos hfirst]
              rw [takeDigits_append hrest, startsWithDigit_append hrest, if_neg hdigit]
              exact hmore rest hrest
      · cases h

end Json
end Pluck
