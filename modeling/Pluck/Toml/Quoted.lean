import Pluck.Text.Digit

/-! TOML strings: in double quotes with escapes or in single quotes without, on one line or, in
three quotes, over several. Every reader starts after the opening quotes. -/

namespace Pluck
namespace Toml

/-- Control characters other than the tab stand in no string and no comment. -/
def isPlain (c : Char) : Bool := c = '\t' || (0x20 ≤ c.toNat && c.toNat ≠ 0x7F)

def isBlank (c : Char) : Bool := c = ' ' || c = '\t'

/-- The character that hexadecimal digits spell. -/
def codedChar? (count : Nat) (text : List Char) : Option (Char × List Char) :=
  let ds := text.take count
  let code := Digit.number 16 ds
  if ds.length = count ∧ ds.all (Digit.isDigit 16) ∧ code.isValidChar then
    some (Char.ofNat code, text.drop count)
  else none

/-- What follows a backslash. -/
def escape? : List Char → Option (Char × List Char)
  | 'b' :: rest => some ('\x08', rest)
  | 'e' :: rest => some ('\x1b', rest)
  | 't' :: rest => some ('\t', rest)
  | 'n' :: rest => some ('\n', rest)
  | 'f' :: rest => some ('\x0c', rest)
  | 'r' :: rest => some ('\r', rest)
  | '"' :: rest => some ('"', rest)
  | '\\' :: rest => some ('\\', rest)
  | 'x' :: rest => codedChar? 2 rest
  | 'u' :: rest => codedChar? 4 rest
  | 'U' :: rest => codedChar? 8 rest
  | _ => none

/-- The text after blanks and line ends. A carriage return alone ends no line. -/
def skipLineEnds : List Char → List Char
  | ' ' :: rest => skipLineEnds rest
  | '\t' :: rest => skipLineEnds rest
  | '\n' :: rest => skipLineEnds rest
  | '\r' :: '\n' :: rest => skipLineEnds rest
  | text => text

/-- The text after the blanks and the line end that follow a backslash at the end of a line, and
after all blanks and line ends that come next. -/
def continuation? (text : List Char) : Option (List Char) :=
  match text.dropWhile isBlank with
  | '\n' :: rest => some (skipLineEnds rest)
  | '\r' :: '\n' :: rest => some (skipLineEnds rest)
  | _ => none

/-- A string in double quotes on one line. -/
def basicChars (before : List Char) : Nat → List Char → Option (List Char × List Char)
  | 0, _ => none
  | _ + 1, [] => none
  | _ + 1, '"' :: rest => some (before.reverse, rest)
  | fuel + 1, '\\' :: rest =>
      match escape? rest with
      | some (c, rest) => basicChars (c :: before) fuel rest
      | none => none
  | fuel + 1, c :: rest => if isPlain c then basicChars (c :: before) fuel rest else none

/-- A string in single quotes on one line. -/
def literalChars (before : List Char) : List Char → Option (List Char × List Char)
  | [] => none
  | '\'' :: rest => some (before.reverse, rest)
  | c :: rest => if isPlain c then literalChars (c :: before) rest else none

/-- The closing quotes of a string over several lines. Up to two quotes more belong to the
string and stand before them. -/
def closing? (quote : Char) (text : List Char) : Option (List Char × List Char) :=
  let quotes := (text.take 5).takeWhile (· = quote)
  if quotes.length < 3 then none else some (quotes.drop 3, text.drop quotes.length)

/-- A string in three double quotes. Line ends stay as they are written. -/
def basicLines (before : List Char) : Nat → List Char → Option (List Char × List Char)
  | 0, _ => none
  | _ + 1, [] => none
  | fuel + 1, '"' :: rest =>
      match closing? '"' ('"' :: rest) with
      | some (quotes, rest) => some (before.reverse ++ quotes, rest)
      | none => basicLines ('"' :: before) fuel rest
  | fuel + 1, '\\' :: rest =>
      match continuation? rest with
      | some rest => basicLines before fuel rest
      | none =>
          match escape? rest with
          | some (c, rest) => basicLines (c :: before) fuel rest
          | none => none
  | fuel + 1, '\n' :: rest => basicLines ('\n' :: before) fuel rest
  | fuel + 1, '\r' :: '\n' :: rest => basicLines ('\n' :: '\r' :: before) fuel rest
  | fuel + 1, c :: rest => if isPlain c then basicLines (c :: before) fuel rest else none

/-- A string in three single quotes. Line ends stay as they are written. -/
def literalLines (before : List Char) : Nat → List Char → Option (List Char × List Char)
  | 0, _ => none
  | _ + 1, [] => none
  | fuel + 1, '\'' :: rest =>
      match closing? '\'' ('\'' :: rest) with
      | some (quotes, rest) => some (before.reverse ++ quotes, rest)
      | none => literalLines ('\'' :: before) fuel rest
  | fuel + 1, '\n' :: rest => literalLines ('\n' :: before) fuel rest
  | fuel + 1, '\r' :: '\n' :: rest => literalLines ('\n' :: '\r' :: before) fuel rest
  | fuel + 1, c :: rest => if isPlain c then literalLines (c :: before) fuel rest else none

/-- A line end right after the opening quotes is no part of the string. -/
def afterFirstLineEnd : List Char → List Char
  | '\n' :: rest => rest
  | '\r' :: '\n' :: rest => rest
  | text => text

/-- A string on one line, with its opening quote. -/
def shortString? : List Char → Option (String × List Char)
  | '"' :: rest => (basicChars [] (rest.length + 1) rest).map fun (cs, rest) => (.ofList cs, rest)
  | '\'' :: rest => (literalChars [] rest).map fun (cs, rest) => (.ofList cs, rest)
  | _ => none

/-- Any string, with its opening quotes. -/
def string? : List Char → Option (String × List Char)
  | '"' :: '"' :: '"' :: rest =>
      let body := afterFirstLineEnd rest
      (basicLines [] (body.length + 1) body).map fun (cs, rest) => (.ofList cs, rest)
  | '\'' :: '\'' :: '\'' :: rest =>
      let body := afterFirstLineEnd rest
      (literalLines [] (body.length + 1) body).map fun (cs, rest) => (.ofList cs, rest)
  | text => shortString? text

end Toml
end Pluck
