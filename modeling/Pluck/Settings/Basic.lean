import Pluck.Log.Event
import Pluck.Selector.Text
import Pluck.Toml.Reader

/-! The settings of a run: how much to log, how to write the result, and, if they are set, the
selector and the path of the input.

Settings come from a TOML document. They are accepted only if the log level and the path are
more than blanks and the selector can be read, so a later reading of the selector cannot fail. -/

namespace Pluck

/-- How a result is written. -/
inductive OutputForm where
  | compact
  | pretty
deriving DecidableEq

namespace OutputForm

def name : OutputForm → String
  | .compact => "compact"
  | .pretty => "pretty"

def ofName? (name : String) : Option OutputForm :=
  if name = "compact" then some .compact else if name = "pretty" then some .pretty else none

theorem ofName?_eq_some_iff {name : String} {form : OutputForm} :
    ofName? name = some form ↔ name = form.name := by
  unfold ofName?
  split
  · next h => cases form <;> simp [h, OutputForm.name]
  · split
    · next h => cases form <;> simp [h, OutputForm.name]
    · cases form <;> simp_all [OutputForm.name]

end OutputForm

structure Settings where
  logLevel : String := "warn"
  output : OutputForm := .compact
  selector : Option String := none
  input : Option String := none
deriving DecidableEq

namespace Settings

/-- The JSON form; what is not set is left out. -/
def toJson (settings : Settings) : Json :=
  .object ([("log_level", .string settings.logLevel), ("output", .string settings.output.name)] ++
    (settings.selector.map fun text => ("selector", Json.string text)).toList ++
    (settings.input.map fun path => ("input", Json.string path)).toList)

/-- Why settings are refused. -/
inductive Error where
  /-- The reader of TOML refuses the text, with a message of its own. -/
  | notDecoded (message : String)
  | blankLogLevel
  | blankInput
  | selector (message : String)

def Error.message : Error → String
  | .notDecoded message => "Failed to parse TOML configuration: " ++ message
  | .blankLogLevel => "log_level cannot be empty"
  | .blankInput => "input cannot be an empty path"
  | .selector message => "Invalid selector in configuration: " ++ message

/-- The selector, if one is set. -/
def parsedSelector (settings : Settings) : Except Error (Option Selector) :=
  match settings.selector with
  | none => .ok none
  | some text =>
      match Selector.ofUserText text with
      | .error message => .error (.selector message)
      | .ok selector => .ok (some selector)

/-- The first thing that is wrong with settings. -/
def fault? (settings : Settings) : Option Error :=
  if isBlankText settings.logLevel then some .blankLogLevel
  else if settings.input.any isBlankText then some .blankInput
  else
    match settings.parsedSelector with
    | .error e => some e
    | .ok _ => none

/-- A selector without items is accepted with a warning. -/
def warnings (settings : Settings) : List Event :=
  match settings.parsedSelector with
  | .ok (some (.fields [])) =>
      [⟨.warn, configTarget,
        "configured selector is empty; every extraction will yield \x7b\x7d"⟩]
  | _ => []

/-- A setting that is a string if it is there. -/
def stringSetting? (key : String) (table : Toml.Table) : Option (Option String) :=
  match Entries.get? key table with
  | none => some none
  | some (.string s) => some (some s)
  | some _ => none

/-- The output form by its name, or by its name as the only key over something empty. -/
def outputSetting? (table : Toml.Table) : Option OutputForm :=
  match Entries.get? "output" table with
  | none => some .compact
  | some (.string s) => OutputForm.ofName? s
  | some (.table _ [(name, .table _ [])]) => OutputForm.ofName? name
  | some (.table _ [(name, .array [])]) => OutputForm.ofName? name
  | some _ => none

/-- The settings in a table, whatever else is in it. -/
def ofTable? (table : Toml.Table) : Option Settings := do
  let logLevel ← stringSetting? "log_level" table
  let output ← outputSetting? table
  let selector ← stringSetting? "selector" table
  let input ← stringSetting? "input" table
  return ⟨logLevel.getD "warn", output, selector, input⟩

/-- The settings that a TOML text spells, accepted or not. -/
def decode? (text : String) : Option Settings := (Toml.read? text).bind ofTable?

/-- The settings of a TOML text, if they are accepted. `tomlFault` is what the reader of TOML says
about a text that it refuses. -/
def ofToml (tomlFault : String → String) (text : String) : Except Error Settings :=
  match decode? text with
  | none => .error (.notDecoded (tomlFault text))
  | some settings =>
      match settings.fault? with
      | some e => .error e
      | none => .ok settings

end Settings
end Pluck
