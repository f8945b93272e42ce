import Pluck.Json.Basic
import Pluck.Numeric.Shortest

/-! The text of JSON values: compact, without blanks, and indented by two spaces a level. -/

namespace Pluck

/-- Positional for the leading powers of ten from -5 to 15 and always with a point, otherwise
with one digit before the point, if there are more, and a signed exponent. -/
def Numeral.chars (n : Numeral) : List Char :=
  if -5 ≤ n.exponent ∧ n.exponent < 0 then
    ['0', '.'] ++ List.replicate (-n.exponent - 1).toNat '0' ++ n.digits
  else if 0 ≤ n.exponent ∧ n.exponent ≤ 15 then
    let places := n.exponent.toNat + 1
    let whole := n.digits.take places
    let fraction := n.digits.drop places
    whole ++ List.replicate (places - whole.length) '0' ++ ['.'] ++
      (if fraction.isEmpty then ['0'] else fraction)
  else
    n.digits.take 1 ++ (if n.digits.length ≤ 1 then [] else '.' :: n.digits.drop 1) ++ ['e'] ++
      (if n.exponent < 0 then ['-'] else ['+']) ++ Nat.toDigits 10 n.exponent.natAbs

def Binary64.chars (x : Binary64) : List Char :=
  (if x.negative then ['-'] else []) ++ x.shortest.chars

/-- The decimal spelling of a whole number. -/
def Whole.text (n : Whole) : String := n.val.repr

namespace Number

def chars : Number → List Char
  | .whole n => n.text.toList
  | .float x => x.chars

def text (n : Number) : String := String.ofList n.chars

end Number

namespace Json

/-- A character inside quotes: the quote, the backslash and the control characters are escaped,
nothing else is. -/
def escapedChar (c : Char) : List Char :=
  if c = '"' then ['\\', '"']
  else if c = '\\' then ['\\', '\\']
  else if c = '\x08' then ['\\', 'b']
  else if c = '\t' then ['\\', 't']
  else if c = '\n' then ['\\', 'n']
  else if c = '\x0c' then ['\\', 'f']
  else if c = '\r' then ['\\', 'r']
  else if c.toNat < 0x20 then
    ['\\', 'u', '0', '0', Nat.digitChar (c.toNat / 16), Nat.digitChar (c.toNat % 16)]
  else [c]

def quotedChars (s : String) : List Char := '"' :: (s.toList.flatMap escapedChar ++ ['"'])

mutual

/-- The characters of the compact text. -/
def chars : Json → List Char
  | .null => ['n', 'u', 'l', 'l']
  | .bool true => ['t', 'r', 'u', 'e']
  | .bool false => ['f', 'a', 'l', 's', 'e']
  | .number n => n.chars
  | .string s => quotedChars s
  | .array [] => ['[', ']']
  | .array (x :: rest) => '[' :: (x.chars ++ charsAfterElement rest)
  | .object [] => ['\x7b', '\x7d']
  | .object ((key, x) :: rest) =>
      '\x7b' :: (quotedChars key ++ ':' :: (x.chars ++ charsAfterEntry rest))

/-- The rest of an array once an element is written. -/
def charsAfterElement : List Json → List Char
  | [] => [']']
  | x :: rest => ',' :: (x.chars ++ charsAfterElement rest)

/-- The rest of an object once an entry is written. -/
def charsAfterEntry : List (String × Json) → List Char
  | [] => ['\x7d']
  | (key, x) :: rest => ',' :: (quotedChars key ++ ':' :: (x.chars ++ charsAfterEntry rest))

end

/-- The compact text, on one line and without blanks. -/
def text (value : Json) : String := String.ofList value.chars

def newLine (level : Nat) : List Char := '\n' :: List.replicate (2 * level) ' '

mutual

/-- The characters of the indented text of a value that stands at a level. An empty container
stays on its line. -/
def indentedChars (level : Nat) : Json → List Char
  | .array (x :: rest) =>
      '[' :: newLine (level + 1) ++ indentedChars (level + 1) x ++ indentedElements level rest
  | .object ((key, x) :: rest) =>
      '\x7b' :: newLine (level + 1) ++ quotedChars key ++ [':', ' '] ++
        indentedChars (level + 1) x ++ indentedEntries level rest
  | .array [] => ['[', ']']
  | .object [] => ['\x7b', '\x7d']
  | .null => ['n', 'u', 'l', 'l']
  | .bool true => ['t', 'r', 'u', 'e']
  | .bool false => ['f', 'a', 'l', 's', 'e']
  | .number n => n.chars
  | .string s => quotedChars s

def indentedElements (level : Nat) : List Json → List Char
  | [] => newLine level ++ [']']
  | x :: rest =>
      ',' :: newLine (level + 1) ++ indentedChars (level + 1) x ++ indentedElements level rest

def indentedEntries (level : Nat) : List (String × Json) → List Char
  | [] => newLine level ++ ['\x7d']
  | (key, x) :: rest =>
      ',' :: newLine (level + 1) ++ quotedChars key ++ [':', ' '] ++
        indentedChars (level + 1) x ++ indentedEntries level rest

end

/-- The text with one entry or element a line. -/
def indentedText (value : Json) : String := String.ofList (indentedChars 0 value)

end Json
end Pluck
