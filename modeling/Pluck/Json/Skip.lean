import Pluck.Json.Reader

/-! Passing over a JSON value without building it. Less is checked than in reading: numbers may
have any size, containers any depth, and escaped surrogates need no partner. -/

namespace Pluck
namespace Json

/-- What follows a backslash. -/
def skipEscape : List Char → Reading Flaw Unit
  | [] => .error (.here .endInString [])
  | 'u' :: rest => (readHexUnit rest).map fun _ => ()
  | c :: rest =>
      if c ∈ ['"', '\\', '/', 'b', 'f', 'n', 'r', 't'] then .ok ((), rest)
      else .error (.next .invalidEscape (c :: rest))

/-- The rest of a string. -/
def skipChars : Nat → List Char → Reading Flaw Unit
  | 0, rest => .error (.here .endInString rest)
  | _ + 1, [] => .error (.here .endInString [])
  | fuel + 1, c :: rest =>
      if c = '"' then .ok ((), rest)
      else if c = '\\' then (skipEscape rest).andThen fun _ rest => skipChars fuel rest
      else if c.toNat < 0x20 then .error (.here .controlCharacter (c :: rest))
      else skipChars fuel rest

def skipString (text : List Char) : Reading Flaw Unit := skipChars (text.length + 1) text

def skipDigits (text : List Char) : List Char := text.dropWhile Char.isDigit

/-- What follows the letter of an exponent. -/
def skipExponent (text : List Char) : Reading Flaw Unit :=
  let unsigned :=
    match text with
    | '+' :: rest => rest
    | '-' :: rest => rest
    | rest => rest
  if startsWithDigit unsigned then .ok ((), skipDigits unsigned)
  else .error (.next .invalidNumber unsigned)

def skipAfterFraction : List Char → Reading Flaw Unit
  | 'e' :: rest => skipExponent rest
  | 'E' :: rest => skipExponent rest
  | rest => .ok ((), rest)

def skipAfterWhole : List Char → Reading Flaw Unit
  | '.' :: rest =>
      if startsWithDigit rest then skipAfterFraction (skipDigits rest)
      else .error (.next .invalidNumber rest)
  | rest => skipAfterFraction rest

/-- A number after its sign. -/
def skipNumber : List Char → Reading Flaw Unit
  | '0' :: rest =>
      if startsWithDigit rest then .error (.next .invalidNumber rest) else skipAfterWhole rest
  | rest =>
      if startsWithDigit rest then skipAfterWhole (skipDigits rest)
      else .error (.next .invalidNumber rest)

/-- The containers in which a value stands, the innermost first. -/
inductive Bracket where
  | list
  | object
deriving DecidableEq

def Bracket.close : Bracket → Char
  | .list => ']'
  | .object => '\x7d'

def Bracket.unclosed : Bracket → Flaw
  | .list => .endInList
  | .object => .endInObject

def Bracket.noComma : Bracket → Flaw
  | .list => .expectedListCommaOrEnd
  | .object => .expectedObjectCommaOrEnd

/-- In an object a key and a colon stand before the value. -/
def skipKey (bracket : Bracket) (text : List Char) : Reading Flaw Unit :=
  match bracket with
  | .list => .ok ((), text)
  | .object =>
      match skipSpace text with
      | '"' :: rest =>
          (skipString rest).andThen fun _ rest =>
            match skipSpace rest with
            | ':' :: rest => .ok ((), rest)
            | [] => .error (.next .endInObject [])
            | rest => .error (.next .expectedColon rest)
      | [] => .error (.next .endInObject [])
      | rest => .error (.next .keyNotString rest)

/-- Closes containers up to a comma, after which another value stands, or up to the end of the
outermost one. Answers the containers in which that value stands. -/
def skipClosing : List Bracket → List Char → Reading Flaw (List Bracket)
  | [], text => .ok ([], text)
  | bracket :: outer, text =>
      match skipSpace text with
      | [] => .error (.next bracket.unclosed [])
      | c :: rest =>
          if c = bracket.close then skipClosing outer rest
          else if c = ',' then
            (skipKey bracket rest).andThen fun _ rest => .ok (bracket :: outer, rest)
          else .error (.next bracket.noComma (c :: rest))

/-- A value that is no container, given the first character and the text after it. -/
def skipScalar (c : Char) (rest : List Char) : Reading Flaw Unit :=
  if c = '"' then skipString rest
  else if c = '-' then skipNumber rest
  else if c.isDigit then skipNumber (c :: rest)
  else (readScalar c rest).map fun _ => ()

/-- A container after its opening bracket: the containers in which a value now stands. -/
def skipOpening (bracket : Bracket) (outer : List Bracket) (text : List Char) :
    Reading Flaw (List Bracket) :=
  match skipSpace text with
  | [] => .error (.next bracket.unclosed [])
  | c :: rest =>
      if c = bracket.close then skipClosing outer rest
      else (skipKey bracket (c :: rest)).andThen fun _ rest => .ok (bracket :: outer, rest)

/-- Passes over a value and over what closes the containers around it. -/
def skipValues (around : List Bracket) : Nat → List Char → Reading Flaw Unit
  | 0, rest => .error (.here .endInValue rest)
  | fuel + 1, text =>
      let next (step : Reading Flaw (List Bracket)) : Reading Flaw Unit :=
        step.andThen fun left rest =>
          match left with
          | [] => .ok ((), rest)
          | left => skipValues left fuel rest
      match skipSpace text with
      | [] => .error (.next .endInValue [])
      | c :: rest =>
          if c = '[' then next (skipOpening .list around rest)
          else if c = '{' then next (skipOpening .object around rest)
          else next ((skipScalar c rest).andThen fun _ rest => skipClosing around rest)

/-- Passes over one value. -/
def skipValue (text : List Char) : Reading Flaw Unit := skipValues [] (text.length + 1) text

end Json
end Pluck
