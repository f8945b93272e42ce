import Pluck.Json.Numeral
import Pluck.Json.Quoted

/-! Reading JSON texts. Containers nest to a depth of 127; a key that comes again in an object
keeps its first place and takes the last value. -/

namespace Pluck
namespace Json

def isSpace (c : Char) : Bool := c = ' ' || c = '\n' || c = '\t' || c = '\r'

def skipSpace (text : List Char) : List Char := text.dropWhile isSpace

/-- A word that stands for a value. -/
def readWord (value : Json) : List Char → List Char → Reading Flaw Json
  | [], rest => .ok (value, rest)
  | _ :: _, [] => .error (.here .endInValue [])
  | letter :: word, c :: rest =>
      if c = letter then readWord value word rest else .error (.next .expectedIdent (c :: rest))

/-- The elements from the next one to the closing bracket, after those of `before` in reverse. -/
def readElements (element : List Char → Reading Flaw Json) (before : List Json) :
    Nat → List Char → Reading Flaw (List Json)
  | 0, rest => .error (.here .endInList rest)
  | fuel + 1, text =>
      (element text).andThen fun x rest =>
        match skipSpace rest with
        | ']' :: rest => .ok ((x :: before).reverse, rest)
        | ',' :: rest =>
            match skipSpace rest with
            | [] => .error (.next .endInValue [])
            | ']' :: rest => .error (.next .trailingComma (']' :: rest))
            | rest => readElements element (x :: before) fuel rest
        | [] => .error (.next .endInList [])
        | rest => .error (.next .expectedListCommaOrEnd rest)

/-- A key and the colon after it. -/
def readKey : List Char → Reading Flaw String
  | '"' :: rest =>
      (readString rest).andThen fun key rest =>
        match skipSpace rest with
        | ':' :: rest => .ok (key, rest)
        | [] => .error (.next .endInObject [])
        | rest => .error (.next .expectedColon rest)
  | rest => .error (.next .keyNotString rest)

/-- The entries from the next one to the closing brace, written into those of `before`. -/
def readEntries (value : List Char → Reading Flaw Json) (before : Entries Json) :
    Nat → List Char → Reading Flaw (Entries Json)
  | 0, rest => .error (.here .endInObject rest)
  | fuel + 1, text =>
      (readKey text).andThen fun key rest =>
        (value rest).andThen fun x rest =>
          let written := Entries.insert key x before
          match skipSpace rest with
          | '}' :: rest => .ok (written, rest)
          | ',' :: rest =>
              match skipSpace rest with
              | [] => .error (.next .endInValue [])
              | '}' :: rest => .error (.next .trailingComma ('}' :: rest))
              | rest => readEntries value written fuel rest
          | [] => .error (.next .endInObject [])
          | rest => .error (.next .expectedObjectCommaOrEnd rest)

/-- An array after its opening bracket. -/
def readArray (element : List Char → Reading Flaw Json) (text : List Char) : Reading Flaw Json :=
  match skipSpace text with
  | [] => .error (.next .endInList [])
  | ']' :: rest => .ok (.array [], rest)
  | rest => (readElements element [] (rest.length + 1) rest).map .array

/-- An object after its opening brace. -/
def readObject (value : List Char → Reading Flaw Json) (text : List Char) : Reading Flaw Json :=
  match skipSpace text with
  | [] => .error (.next .endInObject [])
  | '}' :: rest => .ok (.object [], rest)
  | rest => (readEntries value [] (rest.length + 1) rest).map .object

/-- A value that is no container, given the first character and the text after it. -/
def readScalar (c : Char) (rest : List Char) : Reading Flaw Json :=
  if c = 'n' then readWord .null ['u', 'l', 'l'] rest
  else if c = 't' then readWord (.bool true) ['r', 'u', 'e'] rest
  else if c = 'f' then readWord (.bool false) ['a', 'l', 's', 'e'] rest
  else if c = '"' then (readString rest).map .string
  else if c = '-' then (readNumber true rest).map .number
  else if c.isDigit then (readNumber false (c :: rest)).map .number
  else .error (.next .expectedValue (c :: rest))

/-- A value in which containers nest to `levels`. -/
def readValue : Nat → List Char → Reading Flaw Json
  | levels, text =>
      match skipSpace text with
      | [] => .error (.next .endInValue [])
      | c :: rest =>
          if c = '[' then
            match levels with
            | 0 => .error (.next .tooDeep (c :: rest))
            | levels + 1 => readArray (readValue levels) rest
          else if c = '{' then
            match levels with
            | 0 => .error (.next .tooDeep (c :: rest))
            | levels + 1 => readObject (readValue levels) rest
          else readScalar c rest

/-- The greatest depth to which containers may nest. -/
def maxDepth : Nat := 127

/-- Nothing but blanks may follow. -/
def readEnd (text : List Char) : Except (Fault Flaw) Unit :=
  match skipSpace text with
  | [] => .ok ()
  | rest => .error (.next .trailingCharacters rest)

def readChars? (text : List Char) : Except (Fault Flaw) Json := do
  let (value, rest) ← readValue maxDepth text
  readEnd rest
  return value

/-- The value of a text, or the message of the first fault in it. -/
def read (text : String) : Except String Json :=
  match readChars? text.toList with
  | .ok value => .ok value
  | .error fault => .error (fault.message Flaw.message text.toList)

end Json
end Pluck
