import Pluck.Entries
import Pluck.Numeric.Binary64

/-! JSON values. Numbers written without fraction and exponent are whole if 64 bits hold them;
all others are floating-point numbers, and the two kinds are never equal. -/

namespace Pluck

/-- A whole number that fits a signed or an unsigned word of 64 bits. -/
structure Whole where
  val : Int
  lower : -2 ^ 63 ≤ val
  upper : val < 2 ^ 64
deriving DecidableEq

/-- The number itself, if 64 bits hold it. -/
def Whole.ofInt? (n : Int) : Option Whole :=
  if h : -2 ^ 63 ≤ n ∧ n < 2 ^ 64 then some ⟨n, h.1, h.2⟩ else none

inductive Number where
  | whole (n : Whole)
  | float (x : Binary64)
deriving DecidableEq

namespace Number

/-- The nearest floating-point number. -/
def toBinary64 : Number → Option Binary64
  | .whole n => Binary64.ofInt n.val
  | .float x => some x

def isZero : Number → Bool
  | .whole n => n.val == 0
  | .float x => x.isZero

/-- Equality of values of one kind. -/
def equal : Number → Number → Bool
  | .whole m, .whole n => m.val == n.val
  | .float x, .float y => x.equal y
  | _, _ => false

end Number

inductive Json where
  | null
  | bool (b : Bool)
  | number (n : Number)
  | string (s : String)
  | array (elements : List Json)
  | object (entries : List (String × Json))

namespace Json

instance : Inhabited Json := ⟨.null⟩

def isArray : Json → Bool
  | .array _ => true
  | _ => false

/-- The count of a list of things. No list outgrows 64 bits; one that did would count as zero. -/
def count (n : Nat) : Json := .number (.whole ((Whole.ofInt? n).getD ⟨0, by decide, by decide⟩))

mutual

/-- Equality of values, whatever the order of the entries in an object. -/
def equal : Json → Json → Bool
  | .null, .null => true
  | .bool a, .bool b => a == b
  | .number m, .number n => m.equal n
  | .string s, .string t => s == t
  | .array xs, .array ys => equalElements xs ys
  | .object es, .object fs => es.length == fs.length && equalEntries es fs
  | _, _ => false

def equalElements : List Json → List Json → Bool
  | [], [] => true
  | x :: xs, y :: ys => x.equal y && equalElements xs ys
  | _, _ => false

/-- Every entry of the first list has an equal one of its key in the second. -/
def equalEntries : List (String × Json) → List (String × Json) → Bool
  | [], _ => true
  | (key, x) :: rest, fs =>
      (match Entries.get? key fs with
        | some y => x.equal y
        | none => false) && equalEntries rest fs

end

mutual

/-- No object at any depth holds a key twice. -/
def WellFormed : Json → Prop
  | .array elements => WellFormedElements elements
  | .object entries => (Entries.keys entries).Nodup ∧ WellFormedEntries entries
  | _ => True

def WellFormedElements : List Json → Prop
  | [] => True
  | x :: rest => x.WellFormed ∧ WellFormedElements rest

def WellFormedEntries : List (String × Json) → Prop
  | [] => True
  | (_, x) :: rest => x.WellFormed ∧ WellFormedEntries rest

end

end Json
end Pluck
