import Mathlib.Data.List.Forall2
import Mathlib.Data.Nat.Digits.Defs
import Mathlib.Tactic.Ring
import Pluck.Proofs.Integers
import Pluck.Proofs.Quotation

/-!
The parts of an integer at the front of a text.

Such an integer is written as blanks, a sign or none, a prefix for hexadecimal digits or none, and as
many digits as there are (`FrontInteger`). Each part is found where it stands: the blanks and the
sign and the prefix are all that there is of them (`leadingInteger?_of_split`), so a text has its
integer exactly if it has these parts and the magnitude is not too large
(`leadingInteger?_frontInteger`).
-/

namespace Pluck

/-- The character is the digit of this value; letters count in either case. -/
structure Digit.Shows (radix : Nat) (c : Char) (value : Nat) : Prop where
  lt : value < radix
  char : c = value.digitChar ∨ c = value.digitChar.toUpper

/-- A sign in front of digits, or none. -/
inductive Sign where
  | none
  | plus
  | minus

namespace Sign

def chars : Sign → List Char
  | none => []
  | plus => ['+']
  | minus => ['-']

def apply : Sign → Nat → Int
  | minus, n => -n
  | none, n | plus, n => n

end Sign

/-- Digits are decimal ones or, after a prefix in either case, hexadecimal ones. -/
inductive Base where
  | ten
  | sixteen (upper : Bool)

namespace Base

def chars : Base → List Char
  | ten => []
  | sixteen false => ['0', 'x']
  | sixteen true => ['0', 'X']

def radix : Base → Nat
  | ten => 10
  | sixteen _ => 16

/-- The text does not start with a prefix for hexadecimal digits. -/
def Unmarked (text : List Char) : Prop := ∀ upper, ¬ (sixteen upper).chars <+: text

end Base

/-- A text that starts with an integer, whatever its magnitude, by its parts. All blanks are taken, a
prefix is taken if it is there, and the run of digits goes as far as it can. -/
structure FrontInteger (text : List Char) where
  blanks : List Char
  sign : Sign
  base : Base
  digits : List Char
  values : List Nat
  rest : List Char
  text_eq : text = blanks ++ (sign.chars ++ (base.chars ++ (digits ++ rest)))
  blank : ∀ c ∈ blanks, isBlank c = true
  notBlank : ∀ c ∈ (sign.chars ++ (base.chars ++ (digits ++ rest))).head?, isBlank c = false
  unmarked : base = .ten → Base.Unmarked (digits ++ rest)
  digits_ne_nil : digits ≠ []
  shows : List.Forall₂ (Digit.Shows base.radix) digits values
  longest : ∀ c ∈ rest.head?, ∀ value, ¬ Digit.Shows base.radix c value

/-- The number that the digits spell, the last one counting its value. -/
def FrontInteger.magnitude {text : List Char} (parts : FrontInteger text) : Nat :=
  Nat.ofDigits parts.base.radix parts.values.reverse

/-! ## Digits -/

theorem Base.radix_le (base : Base) : base.radix ≤ 16 := by
  cases base with
  | ten => decide
  | sixteen upper => exact Nat.le_refl 16

namespace Digit

theorem toNat_digitChar_of_ten_le : ∀ n < 16, 10 ≤ n → n.digitChar.toNat = 87 + n := by decide

theorem toNat_toUpper_digitChar_of_ten_le :
    ∀ n < 16, 10 ≤ n → n.digitChar.toUpper.toNat = 55 + n := by decide

theorem hexValue?_toUpper_digitChar : ∀ n < 16, hexValue? n.digitChar.toUpper = some n := by decide

theorem hexValue?_eq_some_iff {c : Char} {value : Nat} :
    hexValue? c = some value ↔ Shows 16 c value := by
  constructor
  · intro h
    unfold hexValue? at h
    split at h
    · next hc =>
        obtain ⟨hlow, hhigh⟩ : 48 ≤ c.toNat ∧ c.toNat ≤ 57 := hc
        obtain rfl : c.toNat - 48 = value := Option.some.inj h
        refine ⟨by omega, .inl (Char.toNat_inj.1 ?_)⟩
        rw [Nat.toNat_digitChar_of_lt_ten (by omega)]
        omega
    · split at h
      · next hc =>
          obtain ⟨hlow, hhigh⟩ : 97 ≤ c.toNat ∧ c.toNat ≤ 102 := hc
          obtain rfl : c.toNat - 97 + 10 = value := Option.some.inj h
          refine ⟨by omega, .inl (Char.toNat_inj.1 ?_)⟩
          rw [toNat_digitChar_of_ten_le _ (by omega) (by omega)]
          omega
      · split at h
        · next hc =>
            obtain ⟨hlow, hhigh⟩ : 65 ≤ c.toNat ∧ c.toNat ≤ 70 := hc
            obtain rfl : c.toNat - 65 + 10 = value := Option.some.inj h
            refine ⟨by omega, .inr (Char.toNat_inj.1 ?_)⟩
            rw [toNat_toUpper_digitChar_of_ten_le _ (by omega) (by omega)]
            omega
        · cases h
  · rintro ⟨hlt, rfl | rfl⟩
    · exact Json.hexValue?_digitChar value hlt
    · exact hexValue?_toUpper_digitChar value hlt

theorem value?_eq_some_iff {radix : Nat} (hradix : radix ≤ 16) {c : Char} {value : Nat} :
    value? radix c = some value ↔ Shows radix c value := by
  rw [value?, Option.filter_eq_some_iff, hexValue?_eq_some_iff, decide_eq_true_eq]
  constructor
  · rintro ⟨⟨-, hchar⟩, hlt⟩
    exact ⟨hlt, hchar⟩
  · rintro ⟨hlt, hchar⟩
    exact ⟨⟨by omega, hchar⟩, hlt⟩

theorem isDigit_iff {radix : Nat} (hradix : radix ≤ 16) {c : Char} :
    isDigit radix c = true ↔ ∃ value, Shows radix c value := by
  simp only [isDigit, Option.isSome_iff_exists, value?_eq_some_iff hradix]

theorem exists_values_iff {radix : Nat} (hradix : radix ≤ 16) {digits : List Char} :
    (∃ values, List.Forall₂ (Shows radix) digits values) ↔
      ∀ c ∈ digits, isDigit radix c = true := by
  induction digits with
  | nil => exact ⟨fun _ => List.forall_mem_nil _, fun _ => ⟨[], .nil⟩⟩
  | cons c rest ih =>
      rw [List.forall_mem_cons, ← ih, isDigit_iff hradix]
      constructor
      · rintro ⟨_, _ | ⟨hc, hrest⟩⟩
        exact ⟨⟨_, hc⟩, _, hrest⟩
      · rintro ⟨⟨value, hc⟩, values, hrest⟩
        exact ⟨value :: values, .cons hc hrest⟩

/-- Reading digits from the left gives each one the weight of its place. -/
theorem number_eq_ofDigits {radix : Nat} (hradix : radix ≤ 16) {digits : List Char}
    {values : List Nat} (h : List.Forall₂ (Shows radix) digits values) :
    number radix digits = Nat.ofDigits radix values.reverse := by
  have hread : ∀ read, digits.foldl (fun read c => read * radix + (value? radix c).getD 0) read =
      read * radix ^ values.length + Nat.ofDigits radix values.reverse := by
    induction h with
    | nil => simp
    | cons hc _ ih =>
        intro read
        rw [List.foldl_cons, ih, (value?_eq_some_iff hradix).2 hc, Option.getD_some,
          List.reverse_cons, Nat.ofDigits_append, Nat.ofDigits_singleton, List.length_reverse,
          List.length_cons, pow_succ]
        ring
  have hzero := hread 0
  rwa [Nat.zero_mul, Nat.zero_add] at hzero

end Digit

/-! ## Finding the parts -/

theorem dropWhile_append_of_head {p : Char → Bool} {front rest : List Char}
    (hfront : ∀ c ∈ front, p c = true) (hrest : ∀ c ∈ rest.head?, p c = false) :
    (front ++ rest).dropWhile p = rest := by
  rw [List.dropWhile_append_of_pos hfront]
  cases rest with
  | nil => rfl
  | cons c rest => exact List.dropWhile_cons_of_neg (by simp [hrest c rfl])

theorem takeWhile_append_of_head {p : Char → Bool} {front rest : List Char}
    (hfront : ∀ c ∈ front, p c = true) (hrest : ∀ c ∈ rest.head?, p c = false) :
    (front ++ rest).takeWhile p = front := by
  rw [List.takeWhile_append_of_pos hfront]
  cases rest with
  | nil => exact List.append_nil front
  | cons c rest => rw [List.takeWhile_cons_of_neg (by simp [hrest c rfl]), List.append_nil]

/-- A sign stands in front of the rest, if one is there. -/
def Sign.Leads (sign : Sign) (rest : List Char) : Prop :=
  sign = .none → ∀ c ∈ rest.head?, c ≠ '-' ∧ c ≠ '+'

theorem Sign.splitSign_chars {sign : Sign} {rest : List Char} (h : sign.Leads rest) :
    splitSign (sign.chars ++ rest) = (sign matches .minus, rest) := by
  cases sign with
  | plus | minus => rfl
  | none =>
      have hhead := h rfl
      change splitSign rest = (false, rest)
      unfold splitSign
      split
      · exact absurd rfl (hhead '-' rfl).1
      · exact absurd rfl (hhead '+' rfl).2
      · rfl

theorem Sign.exists_splitSign (text : List Char) :
    ∃ (sign : Sign) (rest : List Char), text = sign.chars ++ rest ∧ sign.Leads rest := by
  by_cases hminus : text.head? = some '-'
  · obtain ⟨rest, rfl⟩ := List.head?_eq_some_iff.1 hminus
    exact ⟨.minus, rest, rfl, nofun⟩
  · by_cases hplus : text.head? = some '+'
    · obtain ⟨rest, rfl⟩ := List.head?_eq_some_iff.1 hplus
      exact ⟨.plus, rest, rfl, nofun⟩
    · refine ⟨.none, text, rfl, fun _ c hc => ⟨?_, ?_⟩⟩
      · rintro rfl
        exact hminus hc
      · rintro rfl
        exact hplus hc

theorem Base.splitRadix_chars {base : Base} {rest : List Char}
    (h : base = .ten → Unmarked rest) : splitRadix (base.chars ++ rest) = (base.radix, rest) := by
  cases base with
  | sixteen upper => cases upper <;> rfl
  | ten =>
      have hunmarked := h rfl
      change splitRadix rest = (10, rest)
      unfold splitRadix
      split
      · exact absurd (List.prefix_append _ _) (hunmarked false)
      · exact absurd (List.prefix_append _ _) (hunmarked true)
      · rfl

theorem Base.exists_splitRadix (text : List Char) :
    ∃ (base : Base) (rest : List Char), text = base.chars ++ rest ∧
      (base = .ten → Unmarked rest) := by
  by_cases hmarked : ∃ upper, (sixteen upper).chars <+: text
  · obtain ⟨upper, rest, rfl⟩ := hmarked
    exact ⟨.sixteen upper, rest, rfl, nofun⟩
  · exact ⟨.ten, text, rfl, fun _ => not_exists.1 hmarked⟩

/-- The integer of a text whose blanks, sign and prefix are known. -/
theorem leadingInteger?_of_split {text : String} {blanks rest : List Char} {sign : Sign}
    {base : Base} (htext : text.toList = blanks ++ (sign.chars ++ (base.chars ++ rest)))
    (hblank : ∀ c ∈ blanks, isBlank c = true)
    (hnotBlank : ∀ c ∈ (sign.chars ++ (base.chars ++ rest)).head?, isBlank c = false)
    (hsign : sign.Leads (base.chars ++ rest)) (hbase : base = .ten → Base.Unmarked rest) :
    leadingInteger? text =
      let run := rest.takeWhile (Digit.isDigit base.radix)
      let magnitude := Digit.number base.radix run
      if run = [] ∨ 2 ^ 63 ≤ magnitude then none else some (sign.apply magnitude) := by
  unfold leadingInteger?
  rw [htext, dropWhile_append_of_head hblank hnotBlank, Sign.splitSign_chars hsign]
  simp only [Base.splitRadix_chars hbase, List.isEmpty_iff]
  cases sign <;> rfl

/-! ## Texts with all parts -/

namespace FrontInteger

variable {text : List Char} (parts : FrontInteger text)

theorem isDigit_of_mem : ∀ c ∈ parts.digits, Digit.isDigit parts.base.radix c = true :=
  (Digit.exists_values_iff parts.base.radix_le).1 ⟨parts.values, parts.shows⟩

/-- What follows the sign starts with a digit, be it the zero of a prefix. -/
theorem leads : parts.sign.Leads (parts.base.chars ++ (parts.digits ++ parts.rest)) := by
  intro _ c hc
  have hdigit : Digit.isDigit parts.base.radix c = true := by
    cases hbase : parts.base with
    | sixteen upper =>
        rw [hbase] at hc
        obtain rfl : '0' = c := by cases upper <;> exact Option.some.inj hc
        rfl
    | ten =>
        rw [hbase] at hc
        obtain ⟨d, digits, hdigits⟩ := List.exists_cons_of_ne_nil parts.digits_ne_nil
        rw [hdigits] at hc
        obtain rfl : d = c := Option.some.inj hc
        rw [← hbase]
        exact parts.isDigit_of_mem d (by simp [hdigits])
  constructor
  · rintro rfl
    cases hbase : parts.base <;> rw [hbase] at hdigit <;> cases hdigit
  · rintro rfl
    cases hbase : parts.base <;> rw [hbase] at hdigit <;> cases hdigit

end FrontInteger

theorem leadingInteger?_of_parts {text : String} (parts : FrontInteger text.toList) :
    leadingInteger? text =
      if 2 ^ 63 ≤ parts.magnitude then none else some (parts.sign.apply parts.magnitude) := by
  have hend : ∀ c ∈ parts.rest.head?, Digit.isDigit parts.base.radix c = false := by
    intro c hc
    rw [← Bool.not_eq_true, Digit.isDigit_iff parts.base.radix_le, not_exists]
    exact parts.longest c hc
  rw [leadingInteger?_of_split parts.text_eq parts.blank parts.notBlank parts.leads parts.unmarked,
    takeWhile_append_of_head parts.isDigit_of_mem hend]
  simp only [parts.digits_ne_nil, false_or,
    Digit.number_eq_ofDigits parts.base.radix_le parts.shows]
  rfl

theorem head?_dropWhile_eq_false {p : Char → Bool} {text : List Char} :
    ∀ c ∈ (text.dropWhile p).head?, p c = false := by
  intro c hc
  have hhead := List.head?_dropWhile_not p text
  rw [hc] at hhead
  exact hhead

theorem exists_frontInteger {text : String} {n : Int} (h : leadingInteger? text = some n) :
    Nonempty (FrontInteger text.toList) := by
  obtain ⟨sign, unsigned, hunsigned, hsign⟩ :=
    Sign.exists_splitSign (text.toList.dropWhile isBlank)
  obtain ⟨base, rest, hrest, hbase⟩ := Base.exists_splitRadix unsigned
  have htext : text.toList =
      text.toList.takeWhile isBlank ++ (sign.chars ++ (base.chars ++ rest)) := by
    rw [← hrest, ← hunsigned, List.takeWhile_append_dropWhile]
  have hblank : ∀ c ∈ text.toList.takeWhile isBlank, isBlank c = true :=
    fun c hc => List.mem_takeWhile_imp hc
  have hnotBlank : ∀ c ∈ (sign.chars ++ (base.chars ++ rest)).head?, isBlank c = false := by
    rw [← hrest, ← hunsigned]
    exact head?_dropWhile_eq_false
  rw [leadingInteger?_of_split htext hblank hnotBlank (hrest ▸ hsign) hbase] at h
  dsimp only at h
  split at h
  · cases h
  · next hrun =>
      have hdigits : ∀ c ∈ rest.takeWhile (Digit.isDigit base.radix),
          Digit.isDigit base.radix c = true := fun c hc => List.mem_takeWhile_imp hc
      obtain ⟨values, hvalues⟩ := (Digit.exists_values_iff base.radix_le).2 hdigits
      have hsplit : rest.takeWhile (Digit.isDigit base.radix) ++
          rest.dropWhile (Digit.isDigit base.radix) = rest := List.takeWhile_append_dropWhile
      refine ⟨{
        blanks := text.toList.takeWhile isBlank
        sign, base, values
        digits := rest.takeWhile (Digit.isDigit base.radix)
        rest := rest.dropWhile (Digit.isDigit base.radix)
        text_eq := by rwa [hsplit]
        blank := hblank
        notBlank := by rwa [hsplit]
        unmarked := by rwa [hsplit]
        digits_ne_nil := fun hnil => hrun (.inl hnil)
        shows := hvalues
        longest := fun c hc value hvalue => ?_ }⟩
      have hdigit := (Digit.isDigit_iff base.radix_le).2 ⟨value, hvalue⟩
      rw [head?_dropWhile_eq_false c hc] at hdigit
      cases hdigit

/-! ## Spellings of integers -/

theorem Base.unmarked_of_isDigit {digits : List Char} (h : ∀ c ∈ digits, c.isDigit = true) :
    Unmarked digits := by
  rintro upper ⟨rest, rfl⟩
  cases upper with
  | false =>
      have hx := h 'x' (by simp [chars])
      cases hx
  | true =>
      have hx := h 'X' (by simp [chars])
      cases hx

theorem leadingInteger?_intRepr {n : Int} (h : n.natAbs < 2 ^ 63) :
    leadingInteger? n.repr = some n := by
  cases n with
  | ofNat n => exact leadingInteger?_repr h
  | negSucc n =>
      have hdigits : ∀ c ∈ Nat.toDigits 10 (n + 1), c.isDigit = true :=
        fun _ => isDigit_of_mem_toDigits
      have htext : (Int.negSucc n).repr.toList =
          [] ++ (Sign.minus.chars ++ (Base.ten.chars ++ Nat.toDigits 10 (n + 1))) := by
        rw [Int.repr, String.toList_append, Nat.toList_repr]
        rfl
      have hnotBlank : ∀ c ∈ (Sign.minus.chars ++ (Base.ten.chars ++
          Nat.toDigits 10 (n + 1))).head?, isBlank c = false := by
        rintro c ⟨⟩
        rfl
      have hrun : ¬ (Nat.toDigits 10 (n + 1) = [] ∨ 2 ^ 63 ≤ n + 1) := by
        rintro (hnil | hlarge)
        · exact Nat.toDigits_ne_nil hnil
        · exact absurd h (Nat.not_lt.2 hlarge)
      rw [leadingInteger?_of_split htext (List.forall_mem_nil _) hnotBlank nofun
        fun _ => Base.unmarked_of_isDigit hdigits]
      simp only [Base.radix, takeWhile_isDigit_of_isDigit hdigits, Digit.number_toDigits]
      rw [if_neg hrun]
      rfl

/-- **Integers at the front.** A text has an integer at its front exactly if it has all the parts of
one and the magnitude is below `2 ^ 63`; the integer is the magnitude with its sign. This holds of
the spelling of each integer of such a magnitude. A larger magnitude is no integer, and neither is a
prefix without a hexadecimal digit after it. -/
theorem leadingInteger?_frontInteger :
    (∀ (text : String) (n : Int), leadingInteger? text = some n ↔
      ∃ parts : FrontInteger text.toList,
        parts.magnitude ≤ 2 ^ 63 - 1 ∧ n = parts.sign.apply parts.magnitude) ∧
    (∀ n : Int, n.natAbs ≤ 2 ^ 63 - 1 → leadingInteger? n.repr = some n) ∧
    (∀ (text : String) (parts : FrontInteger text.toList), 2 ^ 63 - 1 < parts.magnitude →
      leadingInteger? text = none) ∧
    ∀ (text : String) (blanks rest : List Char) (sign : Sign) (upper : Bool),
      text.toList = blanks ++ (sign.chars ++ ((Base.sixteen upper).chars ++ rest)) →
      (∀ c ∈ blanks, isBlank c = true) →
      (∀ c ∈ rest.head?, ∀ value, ¬ Digit.Shows 16 c value) → leadingInteger? text = none := by
  refine ⟨fun text n => ⟨fun h => ?_, ?_⟩, fun n h => leadingInteger?_intRepr (by omega),
    fun text parts h => ?_, fun text blanks rest sign upper htext hblank hrest => ?_⟩
  · obtain ⟨parts⟩ := exists_frontInteger h
    rw [leadingInteger?_of_parts parts] at h
    split at h
    · cases h
    · next hsmall => exact ⟨parts, by omega, (Option.some.inj h).symm⟩
  · rintro ⟨parts, hsmall, rfl⟩
    rw [leadingInteger?_of_parts parts, if_neg (by omega)]
  · rw [leadingInteger?_of_parts parts, if_pos (by omega)]
  · have hzero : ∀ c ∈ ((Base.sixteen upper).chars ++ rest).head?, c = '0' := by
      intro c hc
      cases upper <;> exact (Option.some.inj hc).symm
    have hnotBlank :
        ∀ c ∈ (sign.chars ++ ((Base.sixteen upper).chars ++ rest)).head?, isBlank c = false := by
      intro c hc
      cases sign with
      | none =>
          obtain rfl := hzero c hc
          rfl
      | plus | minus =>
          cases hc
          rfl
    have hsign : sign.Leads ((Base.sixteen upper).chars ++ rest) := by
      intro _ c hc
      obtain rfl := hzero c hc
      decide
    have hend : ∀ c ∈ rest.head?, Digit.isDigit (Base.sixteen upper).radix c = false := by
      intro c hc
      rw [← Bool.not_eq_true, Digit.isDigit_iff (Base.radix_le _), not_exists]
      exact hrest c hc
    have hrun : rest.takeWhile (Digit.isDigit (Base.sixteen upper).radix) = [] :=
      takeWhile_append_of_head (List.forall_mem_nil _) hend
    rw [leadingInteger?_of_split htext hblank hnotBlank hsign nofun, hrun]
    exact if_pos (.inl rfl)

/-! Hexadecimal digits after a blank, a sign and a prefix, and one digit too many. -/

def spacedParts : FrontInteger " -0X1fg".toList where
  blanks := [' ']
  sign := .minus
  base := .sixteen true
  digits := ['1', 'f']
  values := [1, 15]
  rest := ['g']
  text_eq := by decide
  blank := List.forall_mem_singleton.2 rfl
  notBlank := by
    rintro c ⟨⟩
    rfl
  unmarked := nofun
  digits_ne_nil := by decide
  shows := .cons ⟨by decide, .inl rfl⟩ (.cons ⟨by decide, .inl rfl⟩ .nil)
  longest := by
    rintro c ⟨⟩ value
    rw [← Digit.value?_eq_some_iff (by decide)]
    nofun

def largeParts : FrontInteger "+0x8000000000000000".toList where
  blanks := []
  sign := .plus
  base := .sixteen false
  digits := (8 :: List.replicate 15 0).map Nat.digitChar
  values := 8 :: List.replicate 15 0
  rest := []
  text_eq := by decide
  blank := List.forall_mem_nil _
  notBlank := by
    rintro c ⟨⟩
    rfl
  unmarked := nofun
  digits_ne_nil := by decide
  shows := by
    have hlt : ∀ value ∈ 8 :: List.replicate 15 0, value < 16 := by simp
    rw [List.forall₂_map_left_iff, List.forall₂_same]
    exact fun value hvalue => ⟨hlt value hvalue, .inl rfl⟩
  longest := by rintro c ⟨⟩

theorem leadingInteger?_frontInteger_spacedParts :
    (spacedParts.magnitude ≤ 2 ^ 63 - 1 ∧ leadingInteger? " -0X1fg" = some (-31)) ∧
      ((-(2 ^ 63 - 1) : Int).natAbs ≤ 2 ^ 63 - 1 ∧
        leadingInteger? (-(2 ^ 63 - 1) : Int).repr = some (-(2 ^ 63 - 1))) ∧
      (2 ^ 63 - 1 < largeParts.magnitude ∧ leadingInteger? "+0x8000000000000000" = none) ∧
      leadingInteger? " 0xg" = none := by
  obtain ⟨hparts, hrepr, hlarge, hprefix⟩ := leadingInteger?_frontInteger
  have hspaced : spacedParts.magnitude = 31 := by rfl
  have hmany : largeParts.magnitude = 2 ^ 63 := by rfl
  refine ⟨⟨by omega, ?_⟩, ⟨by decide, hrepr _ (by decide)⟩, ⟨by omega, hlarge _ largeParts ?_⟩, ?_⟩
  · exact (hparts _ _).2 ⟨spacedParts, by omega, by rw [hspaced]; rfl⟩
  · omega
  · refine hprefix _ [' '] ['g'] .none false (by decide) (List.forall_mem_singleton.2 rfl) ?_
    rintro c ⟨⟩ value
    rw [← Digit.value?_eq_some_iff (by decide)]
    nofun

end Pluck
