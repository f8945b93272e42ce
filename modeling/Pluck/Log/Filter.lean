import Pluck.Log.Event
import Pluck.Log.Pattern
import Pluck.Text.Alphanumeric
import Pluck.Text.Blank
import Pluck.Text.Position

/-! Log filters: which events are shown.

A filter is a list of directives with commas between them. A directive gives a level, or a target
and a level; a target alone shows everything from it. In brackets after the target may stand the
name of a span and, in braces, that of a field. The most special directive that fits an event
decides: the one with the longest target, and of two for one target the one with a field. An event
that none fits is not shown. -/

namespace Pluck

/-- The most detailed level that is shown, from none to five. -/
abbrev Threshold := Nat

namespace Threshold

/-- A number from zero to five, with or without a plus sign. -/
def ofNumber? (text : List Char) : Option Threshold :=
  let digits :=
    match text with
    | '+' :: rest => rest
    | text => text
  let n := Nat.ofDigitChars 10 digits 0
  if digits ≠ [] ∧ digits.all Char.isDigit ∧ n ≤ 5 then some n else none

/-- A level by its name in either case, or by its number. -/
def ofText? (text : List Char) : Option Threshold :=
  let name := String.ofList (text.map Char.toLower)
  if name = "error" then some 1
  else if name = "warn" then some 2
  else if name = "info" then some 3
  else if name = "debug" then some 4
  else if name = "trace" then some 5
  else if name = "off" then some 0
  else ofNumber? text

/-- Everything is shown. -/
def all : Threshold := 5

end Threshold

/-- Which events of its targets a directive is for. -/
inductive Scope where
  | all
  /-- Those that have a field of this name. -/
  | field (name : String)
  /-- Those inside a span or with a certain value in a field. Nothing here is either. -/
  | inner
deriving DecidableEq

/-- A directive for all targets that `target` begins; for all targets at all if it is none. -/
structure Directive where
  target : Option String
  scope : Scope
  threshold : Threshold
deriving DecidableEq

namespace Directive

/-- Why a directive is ignored. -/
inductive Error where
  | malformed
  | badLevel
  /-- The value of a field is no pattern. -/
  | badValue (fault : Pattern.Fault)
deriving DecidableEq

def Error.message : Error → String
  | .malformed => "invalid filter directive"
  | .badLevel =>
      "error parsing level filter: expected one of \"off\", \"error\", \"warn\", \"info\", " ++
        "\"debug\", \"trace\", or a number 0-5"
  | .badValue fault => "invalid field filter: " ++ fault.message

def trim (text : List Char) : List Char :=
  ((text.dropWhile isBlank).reverse.dropWhile isBlank).reverse

def canStart (c : Char) : Bool := isAlphanumeric c || c = '-' || c = ':' || c = '_'

/-- The text without its first bytes. -/
def dropBytes : Nat → List Char → List Char
  | 0, text => text
  | _, [] => []
  | bytes + 1, c :: rest => dropBytes (bytes + 1 - c.utf8Size) rest

/-- The first bytes of a text. -/
def takeBytes : Nat → List Char → List Char
  | 0, _ => []
  | _, [] => []
  | bytes + 1, c :: rest => c :: takeBytes (bytes + 1 - c.utf8Size) rest

/-- A text and the same text without the blanks around it. The parts of a directive are found in
the latter but cut from the former, at the same distances from the start. -/
structure Source where
  whole : List Char
  trimmed : List Char

namespace Source

def ofText (text : List Char) : Source := ⟨text, trim text⟩

/-- What stands in the whole text from where `rest`, an end of the trimmed text, starts. -/
def cutFrom (source : Source) (rest : List Char) : List Char :=
  dropBytes (byteCount source.trimmed - byteCount rest) source.whole

/-- The same for as many bytes as `part` has. -/
def cut (source : Source) (rest part : List Char) : List Char :=
  takeBytes (byteCount part) (source.cutFrom rest)

end Source

/-- The end of a directive: nothing, or an equals sign and a level. -/
def ofEnd (source : Source) (target : Option String) (scope : Scope) :
    List Char → Except Error Directive
  | [] => .ok ⟨target, scope, Threshold.all⟩
  | '=' :: rest =>
      match source.cutFrom rest with
      | [] => .ok ⟨target, scope, Threshold.all⟩
      | level =>
          match Threshold.ofText? level with
          | some threshold => .ok ⟨target, scope, threshold⟩
          | none => .error .badLevel
  | _ => .error .malformed

/-- Whether a text is a decimal without a sign, with or without an exponent, or a name of what no
decimal is. -/
def isNumeral (text : List Char) : Bool :=
  let whole := text.takeWhile Char.isDigit
  let fraction :=
    match text.drop whole.length with
    | '.' :: rest => '.' :: rest.takeWhile Char.isDigit
    | _ => []
  let endsWell :=
    match text.drop (whole.length + fraction.length) with
    | [] => true
    | 'e' :: '+' :: digits | 'e' :: '-' :: digits | 'E' :: '+' :: digits | 'E' :: '-' :: digits
    | 'e' :: digits | 'E' :: digits => digits ≠ [] && digits.all Char.isDigit
    | _ => false
  (!(whole ++ fraction.tail).isEmpty && endsWell) ||
    String.ofList (text.map Char.toLower) ∈ ["inf", "infinity", "nan"]

/-- The value that a field is to have: what stands between its first and its second equals sign. -/
def fieldValue? (field : List Char) : Option (List Char) :=
  match field.dropWhile (· ≠ '=') with
  | [] => none
  | _ :: rest => some (rest.takeWhile (· ≠ '='))

/-- What is wrong with a value. It is a pattern or a number; only the plus sign of a number would
not stand at the start of a pattern. -/
def valueFault? (value : List Char) : Option Pattern.Fault :=
  match value with
  | '+' :: rest => if isNumeral rest then none else Pattern.fault? value
  | value => Pattern.fault? value

/-- What follows the opening bracket: the name of a span, if there is one, and a field in braces,
if there is one, with or without a value. -/
def ofBrackets (source : Source) (target : Option String) (text : List Char) :
    Except Error Directive :=
  let span := text.takeWhile fun c => c ≠ ']' && c ≠ '\x7b'
  match text.drop span.length with
  | ']' :: rest => ofEnd source target .inner rest
  | '{' :: rest =>
      let braced := rest.takeWhile (· ≠ '\x7d')
      let field := source.cut rest braced
      match braced, rest.drop braced.length with
      | _ :: _, _ :: after =>
          match (fieldValue? field).bind valueFault?, after with
          | some fault, _ => .error (.badValue fault)
          | none, ']' :: after =>
              let scope := if span = [] ∧ '=' ∉ field then .field (String.ofList field) else .inner
              ofEnd source target scope after
          | none, _ => .error .malformed
      | _, _ => .error .malformed
  | _ => .error .malformed

/-- Reads a directive. What is no level by itself is a target. -/
def ofText (text : List Char) : Except Error Directive :=
  let source := Source.ofText text
  match source.trimmed with
  | [] => .error .malformed
  | c :: rest =>
      if c = '[' then ofBrackets source none rest
      else if ¬canStart c then .error .malformed
      else
        let name := source.trimmed.takeWhile fun c => c ≠ '=' && c ≠ '['
        let target := some (String.ofList (source.cut source.trimmed name))
        match source.trimmed.drop name.length with
        | [] =>
            match Threshold.ofText? text with
            | some threshold => .ok ⟨none, .all, threshold⟩
            | none => .ok ⟨some (String.ofList text), .all, Threshold.all⟩
        | '[' :: rest => ofBrackets source target rest
        | rest => ofEnd source target .all rest

/-- Whether the directive is for the events of a target. The message is the only field that an
event has. -/
def fits (directive : Directive) (target : String) : Bool :=
  (match directive.target with
    | none => true
    | some start => start.toList.isPrefixOf target.toList) &&
  (match directive.scope with
    | .all => true
    | .field name => name = "message"
    | .inner => false)

/-- How special the directive is: by the length of its target, then by its field. -/
def weight (directive : Directive) : Nat :=
  2 * (match directive.target with
    | none => 0
    | some start => start.length + 1) +
  (match directive.scope with
    | .field _ => 1
    | _ => 0)

end Directive

/-- The directives of a filter in their order, and the texts that were ignored. -/
structure Filter where
  directives : List Directive
  ignored : List (String × Directive.Error)
deriving DecidableEq

namespace Filter

/-- The pieces of a text between commas. -/
def pieces (text : List Char) : List (List Char) :=
  text.foldr
    (fun c found =>
      if c = ',' then [] :: found
      else
        match found with
        | [] => [[c]]
        | piece :: rest => (c :: piece) :: rest)
    [[]]

def addPiece (filter : Filter) (piece : List Char) : Filter :=
  match Directive.ofText piece with
  | .ok directive => { filter with directives := filter.directives ++ [directive] }
  | .error e => { filter with ignored := filter.ignored ++ [(String.ofList piece, e)] }

/-- The filter that a text spells. Without any directive errors are shown. -/
def ofText (text : String) : Filter :=
  let filter := ((pieces text.toList).filter (· ≠ [])).foldl addPiece ⟨[], []⟩
  if filter.directives = [] then { filter with directives := [⟨none, .all, 1⟩] } else filter

/-- What is said about the directives that were ignored. -/
def complaints (filter : Filter) : List String :=
  filter.ignored.map fun (text, e) => "ignoring `" ++ text ++ "`: " ++ e.message

/-- The more special of two directives, of equally special ones the later. -/
def better (chosen : Option Directive) (directive : Directive) : Option Directive :=
  match chosen with
  | some best => if directive.weight < best.weight then some best else some directive
  | none => some directive

/-- The directive that decides on the events of a target. -/
def deciding (filter : Filter) (target : String) : Option Directive :=
  (filter.directives.filter (·.fits target)).foldl better none

/-- Whether an event is shown. -/
def shows (filter : Filter) (event : Event) : Bool :=
  (filter.deciding event.target).any fun directive => event.level.rank ≤ directive.threshold

end Filter

namespace Event

/-- Characters that could steer a terminal are shown by their codes. -/
def lineChar (c : Char) : List Char :=
  if c = '\x07' ∨ c = '\x08' ∨ c = '\x0c' ∨ c = '\x1b' ∨ c = '\x7f' then
    let digits := Nat.toDigits 16 c.toNat
    ['\\', 'x'] ++ List.replicate (2 - digits.length) '0' ++ digits
  else if 0x80 ≤ c.toNat ∧ c.toNat ≤ 0x9F then
    ['\\', 'u', '\x7b'] ++ Nat.toDigits 16 c.toNat ++ ['\x7d']
  else [c]

/-- The event as it is written to the log. -/
def line (event : Event) : String :=
  event.level.name ++ " " ++ event.target ++ ": " ++
    String.ofList (event.message.toList.flatMap lineChar)

end Event
end Pluck
