/-! Places in a text: lines count from one, columns count the bytes before the place. -/

namespace Pluck

structure Position where
  line : Nat
  column : Nat
deriving DecidableEq

namespace Position

def start : Position := ⟨1, 0⟩

/-- Moves over `bytes` bytes. A place inside a character counts the bytes before it. -/
def advance (place : Position) : List Char → Nat → Position
  | [], _ => place
  | c :: rest, bytes =>
      if bytes = 0 then place
      else if c = '\n' then advance ⟨place.line + 1, 0⟩ rest (bytes - 1)
      else if bytes ≤ c.utf8Size then ⟨place.line, place.column + bytes⟩
      else advance ⟨place.line, place.column + c.utf8Size⟩ rest (bytes - c.utf8Size)

end Position

/-- The number of bytes of a text. -/
def byteCount (text : List Char) : Nat := text.foldl (fun count c => count + c.utf8Size) 0

end Pluck
