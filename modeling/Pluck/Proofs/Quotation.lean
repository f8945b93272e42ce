import Mathlib.Data.List.Basic
import Pluck.Json.Quoted
import Pluck.Json.Printer

/-!
Reading strings back from their quoted texts.

A character is either written as it is, or as a backslash and a code that is read as this character
(`escapedChar_cases`). So a quoted string is read back whatever its characters are, and whatever
follows it (`readString_quoted`).
-/

namespace Pluck
namespace Json

theorem hexValue?_digitChar : ∀ n < 16, Digit.hexValue? (Nat.digitChar n) = some n := by decide

/-- A control character is read back from its code. -/
theorem readCodedChar_digitChar {c : Char} (hc : c.toNat < 0x20) (rest : List Char) :
    readCodedChar ('0' :: '0' :: Nat.digitChar (c.toNat / 16) :: Nat.digitChar (c.toNat % 16) ::
      rest) = .ok (c, rest) := by
  have hzero : Digit.hexValue? '0' = some 0 := rfl
  have hhigh := hexValue?_digitChar (c.toNat / 16) (by omega)
  have hlow := hexValue?_digitChar (c.toNat % 16) (by omega)
  have hunit : ((0 * 16 + 0) * 16 + c.toNat / 16) * 16 + c.toNat % 16 = c.toNat := by omega
  simp only [readCodedChar, readHexUnit, hexUnit?, hzero, hhigh, hlow, Option.bind_eq_bind,
    Option.bind_some, hunit, pure, Reading.andThen]
  rw [if_pos (by omega), Char.ofNat_toNat]

theorem escapedChar_cases (c : Char) :
    (∃ code, escapedChar c = '\\' :: code ∧ ∀ rest, readEscape (code ++ rest) = .ok (c, rest)) ∨
      (escapedChar c = [c] ∧ c ≠ '"' ∧ c ≠ '\\' ∧ ¬ c.toNat < 0x20) := by
  by_cases hletter : c ∈ ['"', '\\', '\x08', '\t', '\n', '\x0c', '\r']
  · simp only [List.mem_cons, List.not_mem_nil, or_false] at hletter
    rcases hletter with rfl | rfl | rfl | rfl | rfl | rfl | rfl <;>
      exact Or.inl ⟨_, rfl, fun rest => rfl⟩
  · simp only [List.mem_cons, List.not_mem_nil, or_false, not_or] at hletter
    obtain ⟨hquote, hbackslash, hb, ht, hn, hf, hr⟩ := hletter
    have hescaped : escapedChar c = if c.toNat < 0x20 then
        ['\\', 'u', '0', '0', Nat.digitChar (c.toNat / 16), Nat.digitChar (c.toNat % 16)]
        else [c] := by
      simp only [escapedChar, hquote, hbackslash, hb, ht, hn, hf, hr, if_false]
    by_cases hcontrol : c.toNat < 0x20
    · rw [if_pos hcontrol] at hescaped
      exact Or.inl ⟨_, hescaped, fun rest => readCodedChar_digitChar hcontrol rest⟩
    · rw [if_neg hcontrol] at hescaped
      exact Or.inr ⟨hescaped, hquote, hbackslash, hcontrol⟩

theorem readChars_escapedChar (c : Char) (before : List Char) (fuel : Nat) (rest : List Char) :
    readChars before (fuel + 1) (escapedChar c ++ rest) = readChars (c :: before) fuel rest := by
  rcases escapedChar_cases c with ⟨code, hescaped, hread⟩ | ⟨hescaped, hquote, hbackslash, hcontrol⟩
  · rw [hescaped, List.cons_append, readChars, if_neg (by decide), if_pos rfl, hread]
    rfl
  · rw [hescaped, List.singleton_append, readChars, if_neg hquote, if_neg hbackslash,
      if_neg hcontrol]

theorem readChars_escaped {text : List Char} {fuel : Nat} (hfuel : text.length < fuel)
    (before rest : List Char) :
    readChars before fuel (text.flatMap escapedChar ++ '"' :: rest) =
      .ok (before.reverse ++ text, rest) := by
  induction text generalizing before fuel with
  | nil =>
      obtain ⟨fuel, rfl⟩ := Nat.exists_eq_succ_of_ne_zero (Nat.ne_of_gt hfuel)
      rw [List.append_nil]
      rfl
  | cons c text ih =>
      obtain ⟨fuel, rfl⟩ := Nat.exists_eq_succ_of_ne_zero (Nat.ne_of_gt (Nat.zero_lt_of_lt hfuel))
      rw [List.flatMap_cons, List.append_assoc, readChars_escapedChar,
        ih (by simpa using hfuel)]
      simp

theorem length_le_length_escaped (text : List Char) :
    text.length ≤ (text.flatMap escapedChar).length := by
  induction text with
  | nil => exact Nat.le_refl 0
  | cons c text ih =>
      have hpos : 0 < (escapedChar c).length := by
        rcases escapedChar_cases c with ⟨code, hescaped, -⟩ | ⟨hescaped, -⟩ <;> simp [hescaped]
      rw [List.flatMap_cons, List.length_append, List.length_cons]
      omega

/-- A string is read back from its quoted text. -/
theorem readString_quoted (s : String) (rest : List Char) :
    readString (s.toList.flatMap escapedChar ++ '"' :: rest) = .ok (s, rest) := by
  have hfuel : s.toList.length < (s.toList.flatMap escapedChar ++ '"' :: rest).length + 1 := by
    have hlength := length_le_length_escaped s.toList
    rw [List.length_append]
    omega
  rw [readString, readChars_escaped hfuel]
  simp [Reading.map, Reading.andThen]

end Json
end Pluck
