import Pluck.Json.Basic
import Pluck.Json.Fault
import Pluck.Text.Digit

/-! Reading JSON strings. A character beyond the basic plane is written as two escaped
surrogates, and no surrogate stands alone. -/

namespace Pluck
namespace Json

/-- The value of four hexadecimal digits. -/
def hexUnit? : List Char → Option (Nat × List Char)
  | a :: b :: c :: d :: rest => do
      let a ← Digit.hexValue? a
      let b ← Digit.hexValue? b
      let c ← Digit.hexValue? c
      let d ← Digit.hexValue? d
      return (((a * 16 + b) * 16 + c) * 16 + d, rest)
  | _ => none

/-- Four hexadecimal digits. Fewer than four bytes are an unfinished string. -/
def readHexUnit (text : List Char) : Reading Flaw Nat :=
  match hexUnit? text with
  | some found => .ok found
  | none =>
      if byteCount text < 4 then .error (.here .endInString [])
      else .error ⟨.invalidEscape, text, 4⟩

/-- The second half of a pair of surrogates. -/
def readLowSurrogate (high : Nat) : List Char → Reading Flaw Char
  | [] => .error (.here .endInString [])
  | '\\' :: [] => .error (.here .endInString [])
  | '\\' :: 'u' :: rest =>
      (readHexUnit rest).andThen fun low rest =>
        if low < 0xDC00 ∨ 0xDFFF < low then .error (.here .loneSurrogate rest)
        else .ok (Char.ofNat (0x10000 + (high - 0xD800) * 0x400 + (low - 0xDC00)), rest)
  | '\\' :: rest => .error (.next .brokenSurrogatePair rest)
  | rest => .error (.next .brokenSurrogatePair rest)

/-- A character that is written by its code. -/
def readCodedChar (text : List Char) : Reading Flaw Char :=
  (readHexUnit text).andThen fun unit rest =>
    if unit < 0xD800 ∨ 0xDFFF < unit then .ok (Char.ofNat unit, rest)
    else if unit < 0xDC00 then readLowSurrogate unit rest
    else .error (.here .loneSurrogate rest)

/-- What follows a backslash. -/
def readEscape : List Char → Reading Flaw Char
  | [] => .error (.here .endInString [])
  | '"' :: rest => .ok ('"', rest)
  | '\\' :: rest => .ok ('\\', rest)
  | '/' :: rest => .ok ('/', rest)
  | 'b' :: rest => .ok ('\x08', rest)
  | 'f' :: rest => .ok ('\x0c', rest)
  | 'n' :: rest => .ok ('\n', rest)
  | 'r' :: rest => .ok ('\r', rest)
  | 't' :: rest => .ok ('\t', rest)
  | 'u' :: rest => readCodedChar rest
  | rest => .error (.next .invalidEscape rest)

/-- The characters up to the closing quote, after those of `before` in reverse. -/
def readChars (before : List Char) : Nat → List Char → Reading Flaw (List Char)
  | 0, rest => .error (.here .endInString rest)
  | _ + 1, [] => .error (.here .endInString [])
  | fuel + 1, c :: rest =>
      if c = '"' then .ok (before.reverse, rest)
      else if c = '\\' then
        (readEscape rest).andThen fun decoded rest => readChars (decoded :: before) fuel rest
      else if c.toNat < 0x20 then .error (.here .controlCharacter rest)
      else readChars (c :: before) fuel rest

/-- A string after its opening quote. Every step takes a character, so the length of the text
bounds the steps. -/
def readString (text : List Char) : Reading Flaw String :=
  (readChars [] (text.length + 1) text).map String.ofList

end Json
end Pluck
