import Pluck.Text.Blank
import Pluck.Text.Digit
import Pluck.Numeric.Binary64

/-! The integer at the front of a text: blanks, a sign, `0x` for hexadecimal, and the longest
run of digits. Whatever follows is ignored. -/

namespace Pluck

/-- Whether a minus sign stands in front, and the text after a sign. -/
def splitSign : List Char → Bool × List Char
  | '-' :: rest => (true, rest)
  | '+' :: rest => (false, rest)
  | text => (false, text)

/-- The radix and the text in which the digits start. -/
def splitRadix : List Char → Nat × List Char
  | '0' :: 'x' :: rest => (16, rest)
  | '0' :: 'X' :: rest => (16, rest)
  | text => (10, text)

/-- The integer at the front of the text, if there is a digit and the magnitude is below
`2 ^ 63`. -/
def leadingInteger? (text : String) : Option Int :=
  let (negative, unsigned) := splitSign (text.toList.dropWhile isBlank)
  let (radix, digits) := splitRadix unsigned
  let run := digits.takeWhile (Digit.isDigit radix)
  let magnitude := Digit.number radix run
  if run.isEmpty ∨ 2 ^ 63 ≤ magnitude then none
  else some (if negative then -(magnitude : Int) else magnitude)

end Pluck
