import Pluck.Numeric.Binary64

/-! The shortest decimal that reads back as a given binary number.

The decimals that read back as a number fill an interval between the midpoints to its two
neighbours. The coarsest decimal grid with a point in this interval gives the fewest digits;
of its points the one nearest to the number is taken, the even one of two that are equally
near. -/

namespace Pluck

/-- A decimal numeral: its digits, the first one not zero, and the power of ten of the first. -/
structure Numeral where
  digits : List Char
  exponent : Int

namespace Binary64

/-- The interval of a rank in half units, its ends belonging to it if the rank is even. -/
def readsAs (rank num den : Nat) : Bool :=
  let low := (unitsOfRank (rank - 1) + unitsOfRank rank) * den
  let high := (unitsOfRank rank + unitsOfRank (rank + 1)) * den
  if rank % 2 = 0 then low ≤ num && num ≤ high else low < num && num < high

/-- The multiple of `10 ^ exponent` that is nearest to the magnitude of `rank`, counted in that
power, if it or its other neighbour on the grid reads back. -/
def pointOnGrid (rank : Nat) (exponent : Int) : Option Nat :=
  let down := 10 ^ (-exponent).toNat
  let up := one * 10 ^ exponent.toNat
  let units := unitsOfRank rank * down
  let floor := units / up
  let near := nearestWhole units up
  let far := if near = floor then floor + 1 else floor
  if readsAs rank (2 * near * up) down then some near
  else if readsAs rank (2 * far * up) down then some far
  else none

/-- Tries the grids from `10 ^ exponent` downwards. -/
def coarsest (rank : Nat) (exponent : Int) : Nat → Option (Nat × Int)
  | 0 => none
  | fuel + 1 =>
      match pointOnGrid rank exponent with
      | some point => some (point, exponent)
      | none => coarsest rank (exponent - 1) fuel

/-- A power of ten above the magnitude of `rank`, from which the search for a grid may start:
`301 / 1000` is a little below the decimal logarithm of two. -/
def firstExponent (rank : Nat) : Int :=
  ((Nat.log2 (unitsOfRank rank) : Int) - 1073) * 301 / 1000 + 2

/-- The finest grid that is ever needed is that of `10 ^ -324`. Zero has one digit. -/
def shortest (x : Binary64) : Numeral :=
  if x.rank = 0 then ⟨['0'], 0⟩
  else match coarsest x.rank (firstExponent x.rank) 640 with
  | none => ⟨['0'], 0⟩
  | some (point, exponent) =>
      let digits := Nat.toDigits 10 point
      ⟨digits, exponent + (digits.length - 1 : Nat)⟩

end Binary64
end Pluck
