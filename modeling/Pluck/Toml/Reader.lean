import Pluck.Toml.Quoted
import Pluck.Toml.Scalar

/-! Reading TOML documents, version 1.1. Arrays and inline tables nest to a depth of 80, and no key
has more than 80 parts. -/

namespace Pluck
namespace Toml

def skipBlanks (text : List Char) : List Char := text.dropWhile isBlank

/-- The text after the end of the line, blanks and a comment before it allowed. -/
def endLine? (text : List Char) : Option (List Char) :=
  let rest :=
    match skipBlanks text with
    | '#' :: rest => rest.dropWhile isPlain
    | rest => rest
  match rest with
  | [] => some []
  | '\n' :: rest => some rest
  | '\r' :: '\n' :: rest => some rest
  | _ => none

mutual

/-- The text after blanks, line ends and comments, inside an array or an inline table. -/
def skipGap : List Char → Option (List Char)
  | [] => some []
  | ' ' :: rest => skipGap rest
  | '\t' :: rest => skipGap rest
  | '\n' :: rest => skipGap rest
  | '\r' :: '\n' :: rest => skipGap rest
  | '#' :: rest => skipComment rest
  | rest => some rest

def skipComment : List Char → Option (List Char)
  | [] => some []
  | '\n' :: rest => skipGap rest
  | '\r' :: '\n' :: rest => skipGap rest
  | c :: rest => if isPlain c then skipComment rest else none

end

def isBareKeyChar (c : Char) : Bool := c.isAlphanum || c = '_' || c = '-'

/-- One part of a key. -/
def keyPart? (text : List Char) : Option (String × List Char) :=
  match text with
  | '"' :: _ => shortString? text
  | '\'' :: _ => shortString? text
  | _ =>
      let bare := text.takeWhile isBareKeyChar
      if bare.isEmpty then none else some (.ofList bare, text.dropWhile isBareKeyChar)

/-- A key of at most as many parts as the number says, with dots between them, and the text after
the blanks that follow it. -/
def keyParts? : Nat → List Char → Option (List String × List Char)
  | 0, _ => none
  | most + 1, text => do
      let (part, rest) ← keyPart? (skipBlanks text)
      match skipBlanks rest with
      | '.' :: rest =>
          let (parts, rest) ← keyParts? most rest
          return (part :: parts, rest)
      | rest => return ([part], rest)

/-- The greatest depth to which arrays and inline tables may nest, and keys by their dots. -/
def maxDepth : Nat := 80

def key? (text : List Char) : Option (List String × List Char) := keyParts? maxDepth text

def isTokenChar (c : Char) : Bool :=
  c.isAlphanum || c = '_' || c = '-' || c = '+' || c = '.' || c = ':'

/-- A token and the text after it. A day and a time may have a space between them. -/
def token (text : List Char) : List Char × List Char :=
  let first := text.takeWhile isTokenChar
  match text.dropWhile isTokenChar with
  | ' ' :: c :: rest =>
      if afterDay? first = some [] ∧ c.isDigit then
        (first ++ ' ' :: (c :: rest).takeWhile isTokenChar, (c :: rest).dropWhile isTokenChar)
      else (first, ' ' :: c :: rest)
  | rest => (first, rest)

/-- The elements of an array after its opening bracket; a comma may follow the last one. -/
def elements? (value : List Char → Option (Toml × List Char)) (before : List Toml) :
    Nat → List Char → Option (List Toml × List Char)
  | 0, _ => none
  | fuel + 1, text => do
      match ← skipGap text with
      | ']' :: rest => return (before.reverse, rest)
      | text =>
          let (element, rest) ← value text
          match ← skipGap rest with
          | ']' :: rest => return ((element :: before).reverse, rest)
          | ',' :: rest => elements? value (element :: before) fuel rest
          | _ => none

/-- A key with its value, written into a table. What `skip` passes over may stand on both sides of
the equals sign. -/
def assignment? (skip : List Char → Option (List Char))
    (value : List Char → Option (Toml × List Char)) (change : List String → Toml → Option Table)
    (text : List Char) : Option (Table × List Char) := do
  let (key, rest) ← key? text
  let rest ← afterChar? '=' (← skip rest)
  let (found, rest) ← value (← skip rest)
  return (← change key found, rest)

/-- The entries of an inline table after those of `before`; a comma may follow the last one. -/
def inlineEntries? (value : List Char → Option (Toml × List Char)) (before : Table) :
    Nat → List Char → Option (Table × List Char)
  | 0, _ => none
  | fuel + 1, text => do
      match ← skipGap text with
      | '}' :: rest => return (before, rest)
      | text =>
          let (written, rest) ←
            assignment? skipGap value (fun key found => assign found key before) text
          match ← skipGap rest with
          | '}' :: rest => return (written, rest)
          | ',' :: rest => inlineEntries? value written fuel rest
          | _ => none

/-- A value in which arrays and inline tables nest to `levels`. -/
def value? : Nat → List Char → Option (Toml × List Char)
  | levels, text =>
      match text with
      | [] => none
      | c :: rest =>
          if c = '[' then
            match levels with
            | 0 => none
            | levels + 1 => do
                let (elements, rest) ← elements? (value? levels) [] (rest.length + 1) rest
                return (.array elements, rest)
          else if c = '{' then
            match levels with
            | 0 => none
            | levels + 1 => do
                let (entries, rest) ← inlineEntries? (value? levels) [] (rest.length + 1) rest
                return (.table .inline entries, rest)
          else if c = '"' ∨ c = '\'' then do
            let (s, rest) ← string? (c :: rest)
            return (.string s, rest)
          else
            let (word, rest) := token (c :: rest)
            (scalar? word).map fun found => (found, rest)

/-- What a document has given so far, and the header under which its next key falls. -/
structure Progress where
  root : Table
  header : List String

/-- The table of a header and the text after its line. -/
def header? (progress : Progress) (text : List Char) : Option (Progress × List Char) := do
  let again := text.head? = some '['
  let (key, rest) ← key? (if again then text.drop 1 else text)
  let rest ← afterChar? ']' rest
  let rest ← if again then afterChar? ']' rest else some rest
  let last ← key.getLast?
  let opened ← changeAt (if again then openNext last else openTable last) key.dropLast
    progress.root
  return (⟨opened, key⟩, ← endLine? rest)

/-- Takes in one line, or as many as its value has. -/
def line? (progress : Progress) (text : List Char) : Option (Progress × List Char) :=
  match skipBlanks text with
  | '[' :: rest => header? progress rest
  | rest =>
      match endLine? rest with
      | some rest => some (progress, rest)
      | none => do
          let change := fun key found => changeAt (assign found key) progress.header progress.root
          let (written, rest) ← assignment? (some ∘ skipBlanks) (value? maxDepth) change rest
          return (⟨written, progress.header⟩, ← endLine? rest)

def lines? (progress : Progress) : Nat → List Char → Option Table
  | _, [] => some progress.root
  | 0, _ => none
  | fuel + 1, text => do
      let (progress, rest) ← line? progress text
      lines? progress fuel rest

/-- The table of a document; a byte order mark in front is skipped. -/
def read? (text : String) : Option Table :=
  let chars :=
    match text.toList with
    | '\ufeff' :: rest => rest
    | chars => chars
  lines? ⟨[], []⟩ (chars.length + 1) chars

end Toml
end Pluck
