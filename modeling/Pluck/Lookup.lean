import Pluck.Field
import Pluck.Text.LeadingInteger

/-! Looking up a key in a value.

A key is first taken as it is: as a key of an object, or as the canonical spelling of an index
into an array or a string. If that finds nothing, or a value that counts as false, the integer
at the front of the key is taken as an index, a negative one counting back from the end. -/

namespace Pluck

/-- The index that a key spells without sign and leading zeros, if 64 bits hold it. -/
def canonicalIndex? (key : String) : Option Nat :=
  let index := Nat.ofDigitChars 10 key.toList 0
  if index < 2 ^ 64 ∧ index.repr = key then some index else none

/-- The place of an index among `length` things. -/
def position? (length : Nat) (index : Int) : Option Nat :=
  let place := if index < 0 then length + index else index
  if 0 ≤ place then some place.toNat else none

namespace Json

/-- Null, false, zero and the empty string count as false. Containers never do. -/
def isTruthy : Json → Bool
  | .null => false
  | .bool b => b
  | .number n => !n.isZero
  | .string s => !s.isEmpty
  | .array _ => true
  | .object _ => true

/-- The character at a place, as a string. -/
def charAt? (text : String) (place : Nat) : Option Json :=
  text.toList[place]?.map fun c => .string (String.ofList [c])

/-- The value of a key that is taken as it is. -/
def property? (input : Json) (key : String) : Option Json :=
  match input with
  | .object entries => Entries.get? key entries
  | .array elements =>
      if key = "length" then some (count elements.length)
      else (canonicalIndex? key).bind fun place => elements[place]?
  | .string text =>
      if key = "length" then some (count text.length)
      else (canonicalIndex? key).bind (charAt? text)
  | _ => none

/-- The value at an index. In an object a negative index counts back from its `length`, if that
is a number, and the result is taken as a key. -/
def elementAt? (input : Json) (index : Int) : Option Json :=
  match input with
  | .array elements => (position? elements.length index).bind fun place => elements[place]?
  | .string text => (position? text.length index).bind (charAt? text)
  | .object entries =>
      if 0 ≤ index then Entries.get? index.repr entries
      else
        match Entries.get? "length" entries with
        | some (.number length) => do
            let place ← (← length.toBinary64).add (← Binary64.ofInt index)
            Entries.get? (Number.float place).key entries
        | _ => none
  | _ => none

/-- The value of a key that may be read as an index. -/
def resolveKey? (input : Json) (key : String) : Option Json :=
  match input.property? key with
  | some found => if found.isTruthy then some found else (leadingInteger? key).bind input.elementAt?
  | none => (leadingInteger? key).bind input.elementAt?

/-- The value of a field. In an array `length` is the count of the elements, whatever it is, and
`-` the last element. -/
def resolve? (input : Json) (key : String) : Option Json :=
  match input with
  | .array elements =>
      if key = "length" then some (count elements.length)
      else if key = "-" then elements.getLast?
      else input.resolveKey? key
  | _ => input.resolveKey? key

end Json
end Pluck
