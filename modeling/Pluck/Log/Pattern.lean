import Pluck.Text.Alphanumeric
import Pluck.Text.Blank
import Pluck.Text.Digit

/-! Patterns for the values of fields: which texts are regular expressions.

A pattern is read once from its start. Of what has been read only that is kept on which the rest
depends: how the text that follows is read, how deep each expression nests, and the groups that are
still open. There is no look-around, no reference back to a group, and no property of characters
that needs a table of all scripts. A value holds no closing brace, so that an opening one outside a
class is never right. -/

namespace Pluck
namespace Pattern

/-- Why a text is not a pattern that can be used. -/
inductive Fault where
  | broken
  /-- It asks for the border of a word in any script. -/
  | wordBorder
deriving DecidableEq

def Fault.message : Fault → String
  | .broken => "error building NFA"
  | .wordBorder =>
      "unsupported regex feature for DFAs: cannot build DFAs for regexes with Unicode word " ++
        "boundaries; switch to ASCII word boundaries, or heuristically enable Unicode word " ++
        "boundaries or use a different regex engine"

/-- How the text of a group is read. -/
structure Mode where
  /-- Whether upper and lower case are one. -/
  caseless : Bool := false
  /-- Whether a pattern speaks of characters. Otherwise it speaks of bytes, and no single byte
  outside ASCII can be part of a text. -/
  characters : Bool := true
  /-- Whether blanks and comments are passed over. -/
  spaced : Bool := false
deriving DecidableEq

namespace Mode

/-- The text from its next character that counts; `inComment` up to the end of the line. -/
def skipFrom : Bool → List Char → List Char
  | _, [] => []
  | true, c :: rest => skipFrom (c ≠ '\n') rest
  | false, c :: rest =>
      if isBlank c then skipFrom false rest
      else if c = '#' then skipFrom true rest
      else c :: rest

def skip (mode : Mode) (text : List Char) : List Char :=
  if mode.spaced then skipFrom false text else text

/-- Whether it can be told which characters a character or a class stands for: the cases of all
scripts would need a table. -/
def canFold (mode : Mode) : Bool := !(mode.caseless && mode.characters)

/-- Whether a class may have a character as a member. -/
def canHold (mode : Mode) (c : Char) : Bool := mode.canFold && (mode.characters || c.toNat < 0x80)

/-- Turns the part of the mode with this letter on or off; other letters tell nothing here. -/
def set (on : Bool) (mode : Mode) (letter : Char) : Mode :=
  if letter = 'i' then { mode with caseless := on }
  else if letter = 'u' then { mode with characters := on }
  else if letter = 'x' then { mode with spaced := on }
  else mode

/-- The letters before a minus sign turn on, those after it off. Each stands at most once, and
something follows the sign. -/
def setAll? (mode : Mode) (letters : List Char) : Option Mode :=
  if (letters.all (· ∈ "imsUuRx-".toList)) ∧ letters.Nodup ∧ letters.getLast? ≠ some '-' then
    let on := letters.takeWhile (· ≠ '-')
    some ((letters.drop on.length).foldl (set false) (on.foldl (set true) mode))
  else none

end Mode

/-- The height of expressions together, of which each has a height of its own. -/
def join : List Nat → Nat
  | [] => 0
  | [height] => height
  | heights => 1 + heights.foldl max 0

/-- The greatest height of a pattern. -/
def maxHeight : Nat := 250

/-- What a backslash and the characters after it stand for. -/
inductive Atom where
  | literal (c : Char)
  /-- A class of ASCII characters. -/
  | ascii
  /-- The start or the end of the text. -/
  | edge
  | wordBorder

/-- The number that so many hexadecimal digits spell, after what was read before them. -/
def readCode (mode : Mode) : Nat → Nat → List Char → Option (Nat × List Char)
  | 0, read, text => some (read, text)
  | count + 1, read, text =>
      match mode.skip text with
      | [] => none
      | c :: rest =>
          match Digit.hexValue? c with
          | some value => readCode mode count (16 * read + value) rest
          | none => none

def readCharacter (mode : Mode) (count : Nat) (text : List Char) : Option (Atom × List Char) :=
  match readCode mode count 0 text with
  | none => none
  | some (code, rest) => if code.isValidChar then some (.literal (Char.ofNat code), rest) else none

/-- The control characters that have a letter. -/
def controls : List (Char × Char) :=
  [('a', '\x07'), ('f', '\x0c'), ('t', '\t'), ('n', '\n'), ('r', '\r'), ('v', '\x0b')]

/-- Two digits spell a byte, more of them a character. -/
def readByte (mode : Mode) (text : List Char) : Option (Atom × List Char) :=
  (readCharacter mode 2 text).filter fun
    | (.literal c, _) => mode.characters || c.toNat < 0x80
    | _ => true

/-- What follows a backslash. Digits, words of all scripts and whatever is not in ASCII stand for
nothing. -/
def readEscape (mode : Mode) : List Char → Option (Atom × List Char)
  | [] => none
  | c :: rest =>
      if c = 'x' then readByte mode rest
      else if c = 'u' then readCharacter mode 4 rest
      else if c = 'U' then readCharacter mode 8 rest
      else if c = 'd' ∨ c = 's' ∨ c = 'w' then
        if mode.characters then none else some (.ascii, rest)
      else if c = 'A' ∨ c = 'z' then some (.edge, rest)
      else if c ∈ ['b', 'B', '<', '>'] then some (.wordBorder, rest)
      else if c.isAlphanum then (controls.lookup c).map fun control => (.literal control, rest)
      else if c.toNat < 0x80 then some (.literal c, rest)
      else none

/-- The names of the classes that are written in brackets and colons. -/
def asciiClasses : List String :=
  ["alnum", "alpha", "ascii", "blank", "cntrl", "digit", "graph", "lower", "print", "punct",
    "space", "upper", "word", "xdigit"]

/-- A named class after its opening bracket, and whether it is negated. What has not this form is
read as a class of its own. -/
def readNamed : List Char → Option (Bool × List Char)
  | ':' :: rest =>
      let negated := rest.head? = some '^'
      let rest := if negated then rest.tail else rest
      let name := rest.takeWhile (· ≠ ':')
      match rest.drop name.length with
      | ':' :: ']' :: rest =>
          if String.ofList name ∈ asciiClasses then some (negated, rest) else none
      | _ => none
  | _ => none

def readMember (mode : Mode) : List Char → Option (Atom × List Char)
  | [] => none
  | '\\' :: rest => readEscape mode rest
  | c :: rest => some (.literal c, rest)

/-- Whether an atom may be a member of a class by itself. -/
def Atom.isMember (mode : Mode) : Atom → Bool
  | .literal c => mode.canHold c
  | .ascii => mode.canFold
  | _ => false

/-- Whether two atoms may be the ends of a range in a class. -/
def Atom.isRange (mode : Mode) : Atom → Atom → Bool
  | .literal first, .literal last => first ≤ last && mode.canHold first && mode.canHold last
  | _, _ => false

/-- A member of a class or a range of them. A minus sign before another one or before the closing
bracket makes no range. -/
def readRange (mode : Mode) (text : List Char) : Option (List Char) :=
  match readMember mode text with
  | none => none
  | some (first, rest) =>
      let single := if first.isMember mode then some rest else none
      match mode.skip rest with
      | '-' :: rest =>
          match mode.skip rest with
          | ']' :: _ => single
          | '-' :: _ => single
          | rest =>
              match readMember mode rest with
              | none => none
              | some (last, rest) => if first.isRange mode last then some rest else none
      | _ => single

/-- The height of a class: that of its last members, and of the operand to their left if there is
one. -/
def classHeight (left : Option Nat) (members : List Nat) : Nat :=
  match left with
  | none => join members
  | some left => 1 + max left (join members)

/-- The start of a class after its opening bracket. A negated class of bytes would have members
outside ASCII. -/
def openClass (mode : Mode) (text : List Char) : Option (List Char) :=
  match mode.skip text with
  | '^' :: rest => if mode.characters then some rest else none
  | rest => some rest

/-- The rest of a class and its height. As long as only minus signs have been read, `fresh`, another
one is a member, and a closing bracket in the first place is one too. -/
def readClass (mode : Mode) : Nat → Bool → Option Nat → List Nat → List Char →
    Option (Nat × List Char)
  | 0, _, _, _, _ => none
  | fuel + 1, fresh, left, members, text =>
      let operator := readClass mode fuel false (some (classHeight left members)) []
      match mode.skip text with
      | [] => none
      | ']' :: rest =>
          if fresh ∧ members = [] then
            if mode.canFold then readClass mode fuel false left [0] rest else none
          else some (classHeight left members, rest)
      | '[' :: rest =>
          match readNamed rest with
          | some (negated, rest) =>
              if mode.canFold && (mode.characters || !negated) then
                readClass mode fuel false left (0 :: members) rest
              else none
          | none =>
              match openClass mode rest with
              | none => none
              | some rest =>
                  match readClass mode fuel true none [] rest with
                  | none => none
                  | some (height, rest) =>
                      readClass mode fuel false left ((1 + height) :: members) rest
      | '&' :: '&' :: rest => operator rest
      | '~' :: '~' :: rest => operator rest
      | '-' :: rest =>
          if fresh then
            if mode.canFold then readClass mode fuel true left (0 :: members) rest else none
          else
            match rest with
            | '-' :: rest => operator rest
            | rest =>
                match readRange mode ('-' :: rest) with
                | none => none
                | some rest => readClass mode fuel false left (0 :: members) rest
      | text =>
          match readRange mode text with
          | none => none
          | some rest => readClass mode fuel false left (0 :: members) rest

/-- What has been read of a group, or of the whole pattern, the newest first. -/
structure Group where
  mode : Mode := {}
  /-- The heights of the expressions of the current branch; a change of the mode has none. -/
  expressions : List (Option Nat) := []
  /-- The heights of the branches before. -/
  branches : List Nat := []

namespace Group

def branchHeight (group : Group) : Nat := join (group.expressions.map (·.getD 0))

def height (group : Group) : Nat := join (group.branchHeight :: group.branches)

def push (group : Group) (height : Nat) : Group :=
  { group with expressions := some height :: group.expressions }

/-- Begins another branch. -/
def branch (group : Group) : Group :=
  { group with expressions := [], branches := group.branchHeight :: group.branches }

/-- Repeats the expression that was read last. -/
def repeatLast (group : Group) : Option Group :=
  match group.expressions with
  | some height :: rest => some { group with expressions := some (1 + height) :: rest }
  | _ => none

end Group

/-- What has been read of a pattern. -/
structure Progress where
  group : Group := {}
  /-- The groups around the current one, the innermost first. -/
  around : List Group := []
  /-- The names of groups. -/
  names : List (List Char) := []
  /-- Whether the border of a word in any script is asked for. -/
  wordBorder : Bool := false

namespace Progress

def mode (progress : Progress) : Mode := progress.group.mode

def push (progress : Progress) (height : Nat) : Progress :=
  { progress with group := progress.group.push height }

def enter (progress : Progress) (mode : Mode) : Progress :=
  { progress with group := { mode }, around := progress.group :: progress.around }

def leave (progress : Progress) : Option Progress :=
  match progress.around with
  | [] => none
  | outer :: around =>
      some { progress with group := outer.push (1 + progress.group.height), around }

end Progress

/-- Whether a text names a group. -/
def isName (name : List Char) : Bool :=
  match name with
  | [] => false
  | c :: rest =>
      (c = '_' || isLetter c) && rest.all fun c => c ∈ ['_', '.', '[', ']'] || isAlphanumeric c

/-- A group with a name, after the opening angle bracket. -/
def readName (progress : Progress) (text : List Char) : Option (Progress × List Char) :=
  let name := text.takeWhile (· ≠ '>')
  match text.drop name.length with
  | [] => none
  | _ :: rest =>
      if isName name ∧ name ∉ progress.names then
        some ({ progress.enter progress.mode with names := name :: progress.names }, rest)
      else none

/-- A change of the mode, for a group of its own or for the rest of the current one. -/
def readMode (progress : Progress) (text : List Char) : Option (Progress × List Char) :=
  let letters := text.takeWhile fun c => c ≠ ':' && c ≠ ')'
  match progress.mode.setAll? letters, text.drop letters.length with
  | some mode, ':' :: rest => some (progress.enter mode, rest)
  | some mode, ')' :: rest =>
      if letters = [] then none
      else
        let group := progress.group
        some ({ progress with
          group := { group with mode, expressions := none :: group.expressions } }, rest)
  | _, _ => none

/-- What follows an opening parenthesis. -/
def readGroup (progress : Progress) (text : List Char) : Option (Progress × List Char) :=
  match progress.mode.skip text with
  | '?' :: 'P' :: '<' :: rest => readName progress rest
  | '?' :: '<' :: rest => readName progress rest
  | '?' :: rest => readMode progress rest
  | rest => some (progress.enter progress.mode, rest)

/-- Adds what a backslash stands for. -/
def addAtom (progress : Progress) : Atom → Option Progress
  | .literal _ => if progress.mode.canFold then some (progress.push 0) else none
  | .wordBorder =>
      some { progress.push 0 with wordBorder := progress.wordBorder || progress.mode.characters }
  | _ => some (progress.push 0)

/-- A question mark after a repetition belongs to it. -/
def skipLazy : List Char → List Char
  | '?' :: rest => rest
  | text => text

/-- Reads the next part of a pattern, which begins with `c`. -/
def readPart (progress : Progress) (c : Char) (rest : List Char) : Option (Progress × List Char) :=
  let mode := progress.mode
  if c = '(' then readGroup progress rest
  else if c = ')' then progress.leave.map fun progress => (progress, rest)
  else if c = '|' then some ({ progress with group := progress.group.branch }, rest)
  else if c = '[' then
    match openClass mode rest with
    | none => none
    | some rest =>
        (readClass mode (rest.length + 1) true none [] rest).map fun (height, rest) =>
          (progress.push (1 + height), rest)
  else if c = '?' ∨ c = '*' ∨ c = '+' then
    progress.group.repeatLast.map fun group => ({ progress with group }, skipLazy rest)
  else if c = '{' then none
  else if c = '\\' then
    match readEscape mode rest with
    | none => none
    | some (atom, rest) => (addAtom progress atom).map fun progress => (progress, rest)
  else if c = '.' then if mode.characters then some (progress.push 0, rest) else none
  else if c = '^' ∨ c = '$' then some (progress.push 0, rest)
  else if mode.canFold then some (progress.push 0, rest)
  else none

/-- Reads the rest of a pattern. -/
def readParts : Nat → Progress → List Char → Option Progress
  | 0, _, _ => none
  | fuel + 1, progress, text =>
      match progress.mode.skip text with
      | [] => some progress
      | c :: rest =>
          match readPart progress c rest with
          | none => none
          | some (progress, rest) => readParts fuel progress rest

/-- What is wrong with a pattern. -/
def fault? (text : List Char) : Option Fault :=
  match readParts (text.length + 1) {} text with
  | none => some .broken
  | some progress =>
      if progress.around ≠ [] ∨ maxHeight < progress.group.height then some .broken
      else if progress.wordBorder then some .wordBorder
      else none

end Pattern
end Pluck
