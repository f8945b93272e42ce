/-! Digits of a radix up to sixteen; letters count in either case. -/

namespace Pluck
namespace Digit

/-- The value of a hexadecimal digit. -/
def hexValue? (c : Char) : Option Nat :=
  if '0' ≤ c ∧ c ≤ '9' then some (c.toNat - '0'.toNat)
  else if 'a' ≤ c ∧ c ≤ 'f' then some (c.toNat - 'a'.toNat + 10)
  else if 'A' ≤ c ∧ c ≤ 'F' then some (c.toNat - 'A'.toNat + 10)
  else none

def value? (radix : Nat) (c : Char) : Option Nat := (hexValue? c).filter (· < radix)

def isDigit (radix : Nat) (c : Char) : Bool := (value? radix c).isSome

/-- The number that the digits spell; what is no digit counts as zero. -/
def number (radix : Nat) (digits : List Char) : Nat :=
  digits.foldl (fun read c => read * radix + (value? radix c).getD 0) 0

end Digit
end Pluck
