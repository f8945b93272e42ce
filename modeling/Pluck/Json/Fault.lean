import Pluck.Text.Position

/-! Why a text is refused, and where. A reader works on the characters that are left, so it
knows the place of a fault by what is left at that moment. -/

namespace Pluck

/-- A cause, the text that was left unread, and how many more bytes of it had been looked at. -/
structure Fault (Cause : Type) where
  cause : Cause
  rest : List Char
  reach : Nat

namespace Fault

variable {Cause : Type}

/-- At the end of what was read. -/
def here (cause : Cause) (rest : List Char) : Fault Cause := ⟨cause, rest, 0⟩

/-- At the byte that comes next. -/
def next (cause : Cause) (rest : List Char) : Fault Cause := ⟨cause, rest, 1⟩

/-- The place in the whole text, of which `rest` is the end. -/
def position (text : List Char) (fault : Fault Cause) : Position :=
  let left := byteCount fault.rest
  Position.start.advance text (byteCount text - left + min fault.reach left)

/-- The wording of the cause, followed by the place. -/
def message (wording : Cause → String) (text : List Char) (fault : Fault Cause) : String :=
  let place := fault.position text
  wording fault.cause ++ " at line " ++ place.line.repr ++ " column " ++ place.column.repr

end Fault

/-- What a reader finds at the front of a text, and the text after it. -/
abbrev Reading (Cause α : Type) := Except (Fault Cause) (α × List Char)

namespace Reading

variable {Cause α β : Type}

/-- Goes on with what was read and with the text after it. -/
def andThen (reading : Reading Cause α) (go : α → List Char → Reading Cause β) :
    Reading Cause β :=
  match reading with
  | .error fault => .error fault
  | .ok (x, rest) => go x rest

def map (f : α → β) (reading : Reading Cause α) : Reading Cause β :=
  reading.andThen fun x rest => .ok (f x, rest)

end Reading

namespace Json

/-- What can be wrong with a JSON text. -/
inductive Flaw where
  | endInValue
  | endInString
  | endInList
  | endInObject
  | expectedValue
  | expectedIdent
  | expectedColon
  | expectedListCommaOrEnd
  | expectedObjectCommaOrEnd
  | keyNotString
  | trailingComma
  | trailingCharacters
  | invalidNumber
  | numberOutOfRange
  | invalidEscape
  | controlCharacter
  | loneSurrogate
  | brokenSurrogatePair
  | tooDeep
deriving DecidableEq

def Flaw.message : Flaw → String
  | .endInValue => "EOF while parsing a value"
  | .endInString => "EOF while parsing a string"
  | .endInList => "EOF while parsing a list"
  | .endInObject => "EOF while parsing an object"
  | .expectedValue => "expected value"
  | .expectedIdent => "expected ident"
  | .expectedColon => "expected `:`"
  | .expectedListCommaOrEnd => "expected `,` or `]`"
  | .expectedObjectCommaOrEnd => "expected `,` or `\x7d`"
  | .keyNotString => "key must be a string"
  | .trailingComma => "trailing comma"
  | .trailingCharacters => "trailing characters"
  | .invalidNumber => "invalid number"
  | .numberOutOfRange => "number out of range"
  | .invalidEscape => "invalid escape"
  | .controlCharacter => "control character (\\u0000-\\u001F) found while parsing a string"
  | .loneSurrogate => "lone leading surrogate in hex escape"
  | .brokenSurrogatePair => "unexpected end of hex escape"
  | .tooDeep => "recursion limit exceeded"

end Json
end Pluck
