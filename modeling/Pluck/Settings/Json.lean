import Pluck.Settings.Basic
import Pluck.Json.Skip

/-! Settings from a JSON text: an object with a member for each setting, or an array with all
four in order. Both strings must be there; the selector and the path may be null, and in an
object they may be missing. Nothing is checked beyond the types. -/

namespace Pluck
namespace Settings

/-- What stands where something else was expected. -/
inductive Found where
  | value (value : Json)
  | sequence
  | map

def Found.name : Found → String
  | .value .null => "null"
  | .value (.bool b) => "boolean `" ++ (if b then "true" else "false") ++ "`"
  | .value (.number (.whole n)) => "integer `" ++ n.text ++ "`"
  | .value (.number (.float x)) => "floating point `" ++ (Number.float x).text ++ "`"
  | .value (.string s) => "string " ++ quoted s
  | .value (.array _) => "sequence"
  | .value (.object _) => "map"
  | .sequence => "sequence"
  | .map => "map"

/-- What can be wrong with settings in JSON. -/
inductive Flaw where
  | json (flaw : Json.Flaw)
  | wrongType (found : Found) (expected : String)
  | unknownVariant (name : String)
  | duplicate (key : String)
  | missing (key : String)
  | tooShort (length : Nat)

def Flaw.message : Flaw → String
  | .json flaw => flaw.message
  | .wrongType found expected => "invalid type: " ++ found.name ++ ", expected " ++ expected
  | .unknownVariant name =>
      "unknown variant `" ++ name ++ "`, expected `compact` or `pretty`"
  | .duplicate key => "duplicate field `" ++ key ++ "`"
  | .missing key => "missing field `" ++ key ++ "`"
  | .tooShort length =>
      "invalid length " ++ length.repr ++ ", expected struct Config with 4 elements"

/-- A reading of JSON inside a reading of settings. -/
def ofJsonReading {α : Type} : Reading Json.Flaw α → Reading Flaw α
  | .ok found => .ok found
  | .error fault => .error ⟨.json fault.cause, fault.rest, fault.reach⟩

/-- Refuses what stands at the front of the text. Containers are not looked into. -/
def refuse {α : Type} (expected : String) (c : Char) (rest : List Char) : Reading Flaw α :=
  if c = '[' then .error (.here (.wrongType .sequence expected) (c :: rest))
  else if c = '{' then .error (.here (.wrongType .map expected) (c :: rest))
  else
    (ofJsonReading (Json.readScalar c rest)).andThen fun value rest =>
      .error (.here (.wrongType (.value value) expected) rest)

def endInValue {α : Type} : Reading Flaw α := .error (.next (.json .endInValue) [])

def readText (text : List Char) : Reading Flaw String :=
  match Json.skipSpace text with
  | [] => endInValue
  | c :: rest =>
      if c = '"' then ofJsonReading (Json.readString rest) else refuse "a string" c rest

/-- A string or null. -/
def readOptionalText (text : List Char) : Reading Flaw (Option String) :=
  match Json.skipSpace text with
  | 'n' :: rest => (ofJsonReading (Json.readWord .null ['u', 'l', 'l'] rest)).map fun _ => none
  | rest => (readText rest).map some

def readNull (text : List Char) : Reading Flaw Unit :=
  match Json.skipSpace text with
  | [] => endInValue
  | c :: rest =>
      if c = 'n' then (ofJsonReading (Json.readWord .null ['u', 'l', 'l'] rest)).map fun _ => ()
      else refuse "unit" c rest

/-- A colon, blanks before it allowed. -/
def readColon (text : List Char) : Reading Flaw Unit :=
  match Json.skipSpace text with
  | ':' :: rest => .ok ((), rest)
  | [] => .error (.next (.json .endInObject) [])
  | rest => .error (.next (.json .expectedColon) rest)

/-- The name of an output form after its opening quote. -/
def readFormName (text : List Char) : Reading Flaw OutputForm :=
  (ofJsonReading (Json.readString text)).andThen fun name rest =>
    match OutputForm.ofName? name with
    | some form => .ok (form, rest)
    | none => .error (.here (.unknownVariant name) rest)

/-- The name of an output form as the key of an object. -/
def readFormKey (text : List Char) : Reading Flaw OutputForm :=
  match Json.skipSpace text with
  | [] => .error (.next (.json .endInObject) [])
  | '"' :: rest => readFormName rest
  | '}' :: rest => .error (.next (.json .expectedValue) ('}' :: rest))
  | rest => .error (.next (.json .keyNotString) rest)

/-- An output form by its name, or by its name as the only key over null. -/
def readForm (text : List Char) : Reading Flaw OutputForm :=
  match Json.skipSpace text with
  | [] => endInValue
  | '"' :: rest => readFormName rest
  | '{' :: rest =>
      (readFormKey rest).andThen fun form rest =>
        (readColon rest).andThen fun _ rest =>
          (readNull rest).andThen fun _ rest =>
            match Json.skipSpace rest with
            | '}' :: rest => .ok (form, rest)
            | [] => .error (.here (.json .endInObject) [])
            | rest => .error (.here (.json .expectedValue) rest)
  | rest => .error (.next (.json .expectedValue) rest)

/-- The members that have been read. -/
structure Members where
  logLevel : Option String := none
  output : Option OutputForm := none
  selector : Option (Option String) := none
  input : Option (Option String) := none

/-- A fault that is noticed once the object is closed: its place is after the closing brace, if
that is what comes next. -/
def afterBrace {α : Type} (flaw : Flaw) (text : List Char) : Reading Flaw α :=
  match Json.skipSpace text with
  | '}' :: rest => .error (.here flaw rest)
  | rest => .error (.here flaw rest)

/-- The settings from the members, at the end of the object. -/
def ofMembers (members : Members) (text : List Char) : Reading Flaw Settings :=
  match members.logLevel, members.output, text with
  | none, _, text => afterBrace (.missing "log_level") text
  | some _, none, text => afterBrace (.missing "output") text
  | some logLevel, some output, _ :: rest =>
      .ok (⟨logLevel, output, members.selector.getD none, members.input.getD none⟩, rest)
  | some _, some _, [] => .error (.next (.json .endInObject) [])

/-- The value of a member; one that no setting has is passed over. -/
def readMember (members : Members) (key : String) (text : List Char) : Reading Flaw Members :=
  let once {α : Type} (known : Option α) (read : List Char → Reading Flaw α)
      (write : α → Members) : Reading Flaw Members :=
    if known.isSome then afterBrace (.duplicate key) text
    else
      (readColon text).andThen fun _ rest =>
        (read rest).andThen fun value rest => .ok (write value, rest)
  if key = "log_level" then
    once members.logLevel readText fun s => { members with logLevel := some s }
  else if key = "output" then
    once members.output readForm fun form => { members with output := some form }
  else if key = "selector" then
    once members.selector readOptionalText fun s => { members with selector := some s }
  else if key = "input" then
    once members.input readOptionalText fun s => { members with input := some s }
  else
    (readColon text).andThen fun _ rest =>
      (ofJsonReading (Json.skipValue rest)).map fun _ => members

/-- A member with its key. -/
def readKeyedMember (members : Members) : List Char → Reading Flaw Members
  | [] => endInValue
  | '"' :: rest =>
      (ofJsonReading (Json.readString rest)).andThen fun key rest => readMember members key rest
  | '}' :: rest => .error (.next (.json .trailingComma) ('}' :: rest))
  | rest => .error (.next (.json .keyNotString) rest)

/-- The members after the first one. -/
def readMoreMembers (members : Members) : Nat → List Char → Reading Flaw Settings
  | 0, rest => .error (.here (.json .endInObject) rest)
  | fuel + 1, text =>
      match Json.skipSpace text with
      | [] => .error (.next (.json .endInObject) [])
      | '}' :: rest => ofMembers members ('}' :: rest)
      | ',' :: rest =>
          (readKeyedMember members (Json.skipSpace rest)).andThen fun members rest =>
            readMoreMembers members fuel rest
      | rest => .error (.next (.json .expectedObjectCommaOrEnd) rest)

/-- Settings in an object, after its opening brace. -/
def readObject (text : List Char) : Reading Flaw Settings :=
  match Json.skipSpace text with
  | [] => .error (.next (.json .endInObject) [])
  | '}' :: rest => ofMembers {} ('}' :: rest)
  | rest =>
      (readKeyedMember {} rest).andThen fun members rest =>
        readMoreMembers members (rest.length + 1) rest

/-- The next element of an array in which `index` elements have been read. -/
def readElement {α : Type} (index : Nat) (read : List Char → Reading Flaw α) (text : List Char) :
    Reading Flaw α :=
  match Json.skipSpace text with
  | [] => .error (.next (.json .endInList) [])
  | ']' :: rest => .error (.here (.tooShort index) rest)
  | c :: rest =>
      if index = 0 then read (c :: rest)
      else if c = ',' then
        match Json.skipSpace rest with
        | [] => endInValue
        | ']' :: rest => .error (.next (.json .trailingComma) (']' :: rest))
        | rest => read rest
      else .error (.next (.json .expectedListCommaOrEnd) (c :: rest))

/-- The end of an array that must not go on. -/
def readArrayEnd (text : List Char) : Reading Flaw Unit :=
  match Json.skipSpace text with
  | [] => .error (.next (.json .endInList) [])
  | ']' :: rest => .ok ((), rest)
  | ',' :: rest =>
      match Json.skipSpace rest with
      | ']' :: rest => .error (.next (.json .trailingComma) (']' :: rest))
      | rest => .error (.next (.json .trailingCharacters) rest)
  | rest => .error (.next (.json .trailingCharacters) rest)

/-- Settings in an array, after its opening bracket. -/
def readArray (text : List Char) : Reading Flaw Settings :=
  (readElement 0 readText text).andThen fun logLevel rest =>
    (readElement 1 readForm rest).andThen fun output rest =>
      (readElement 2 readOptionalText rest).andThen fun selector rest =>
        (readElement 3 readOptionalText rest).andThen fun input rest =>
          (readArrayEnd rest).map fun _ => ⟨logLevel, output, selector, input⟩

/-- Settings at the front of a text. -/
def readSettings (text : List Char) : Reading Flaw Settings :=
  match Json.skipSpace text with
  | [] => endInValue
  | c :: rest =>
      if c = '[' then readArray rest
      else if c = '{' then readObject rest
      else refuse "struct Config" c rest

/-- The settings that a JSON text spells. -/
def ofJson (text : String) : Except String Settings :=
  match readSettings text.toList with
  | .error fault => .error (fault.message Flaw.message text.toList)
  | .ok (settings, rest) =>
      match Json.readEnd rest with
      | .error fault => .error (fault.message Json.Flaw.message text.toList)
      | .ok () => .ok settings

end Settings
end Pluck
