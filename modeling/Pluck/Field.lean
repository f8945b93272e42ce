import Pluck.Json.Printer

/-! Fields: the names and numbers by which a selector asks for a single value. -/

namespace Pluck

/-- The spelling of a number as a key. A floating-point number that is whole and below `10 ^ 21`
in magnitude is spelled like the whole number, so that `2.0` and `2` are one key. -/
def Number.key : Number → String
  | .whole n => n.text
  | .float x =>
      match x.toInt? with
      | some n => if n.natAbs < 10 ^ 21 then n.repr else (Number.float x).text
      | none => (Number.float x).text

inductive Field where
  | name (key : String)
  | index (n : Number)
deriving DecidableEq

namespace Field

/-- The key under which a field is looked up and written. -/
def key : Field → String
  | .name key => key
  | .index n => n.key

def toJson : Field → Json
  | .name key => .string key
  | .index n => .number n

/-- Strings and numbers are fields, nothing else is. -/
def ofJson? : Json → Option Field
  | .string s => some (.name s)
  | .number n => some (.index n)
  | _ => none

def equal : Field → Field → Bool
  | .name a, .name b => a == b
  | .index m, .index n => m.equal n
  | _, _ => false

end Field
end Pluck
