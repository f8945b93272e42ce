/-! Finite binary floating-point numbers of 64 bits, in exact arithmetic.

A magnitude is known by its rank among all magnitudes. The ranks run through the zero, the
subnormal and the normal numbers without a gap, and a magnitude is a whole number of units of
`2 ^ -1074`, so every operation is done on natural numbers and rounded once, to the nearest
rank, a tie going to the even one. -/

namespace Pluck

-- Powers are those of the core library, also where another library brings its own.
attribute [default_instance 20000, scoped instance (high)] instPowNat

/-- A sign and the rank of a magnitude; the ranks end where the infinity would follow. -/
structure Binary64 where
  negative : Bool
  rank : Nat
  finite : rank < 2047 * 2 ^ 52
deriving DecidableEq

namespace Binary64

/-- The unit in which all magnitudes are whole is `1 / one`. -/
def one : Nat := 2 ^ 1074

/-- The power of two by which the significand of a rank is scaled, in units. -/
def exponentOfRank (rank : Nat) : Nat := rank / 2 ^ 52 - 1

def significandOfRank (rank : Nat) : Nat :=
  if rank < 2 ^ 52 then rank else 2 ^ 52 + rank % 2 ^ 52

/-- The magnitude of a rank, in units. -/
def unitsOfRank (rank : Nat) : Nat := significandOfRank rank * 2 ^ exponentOfRank rank

/-- The whole number nearest to a quotient, the even one of two that are equally near. -/
def nearestWhole (num den : Nat) : Nat :=
  let floor := num / den
  let twice := 2 * (num % den)
  if twice < den then floor
  else if den < twice then floor + 1
  else floor + floor % 2

/-- The rank nearest to a quotient of units. Rounding up across a power of two lands on the
next binade by itself. -/
def nearestRank (num den : Nat) : Nat :=
  let exponent := Nat.log2 (num / den) - 52
  exponent * 2 ^ 52 + nearestWhole num (den * 2 ^ exponent)

/-- The nearest number to a quotient of units, unless that is too large. -/
def ofUnits (negative : Bool) (num den : Nat) : Option Binary64 :=
  if h : nearestRank num den < 2047 * 2 ^ 52 then some ⟨negative, nearestRank num den, h⟩ else none

def zero (negative : Bool) : Binary64 := ⟨negative, 0, by decide⟩

/-- The magnitude in units. -/
def units (x : Binary64) : Nat := unitsOfRank x.rank

/-- The value in units, with its sign. -/
def signedUnits (x : Binary64) : Int := if x.negative then -(x.units : Int) else x.units

def isZero (x : Binary64) : Bool := x.rank == 0

def neg (x : Binary64) : Binary64 := { x with negative := !x.negative }

def ofInt (n : Int) : Option Binary64 := ofUnits (decide (n < 0)) (n.natAbs * one) 1

/-- The rounded sum. A sum of zero is negative only if both terms are. -/
def add (x y : Binary64) : Option Binary64 :=
  let sum := x.signedUnits + y.signedUnits
  if sum = 0 then some (zero (x.negative && y.negative))
  else ofUnits (decide (sum < 0)) sum.natAbs 1

def mul (x y : Binary64) : Option Binary64 :=
  ofUnits (x.negative != y.negative) (x.units * y.units) one

/-- The rounded quotient by a number that is not zero. -/
def div (x y : Binary64) : Option Binary64 :=
  ofUnits (x.negative != y.negative) (x.units * one) y.units

/-- The value as a whole number, if it is one. -/
def toInt? (x : Binary64) : Option Int :=
  if x.units % one = 0 then some (x.signedUnits / one) else none

/-- Equality of values, under which the two zeros are one. -/
def equal (x y : Binary64) : Bool := (x.isZero && y.isZero) || decide (x = y)

end Binary64
end Pluck
