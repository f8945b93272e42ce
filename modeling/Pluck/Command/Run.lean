import Pluck.Command.Arguments
import Pluck.Command.Files
import Pluck.Log.Filter
import Pluck.Settings.Basic
import Pluck.Text.Lines

/-! A run of the command line, from its arguments to what it writes.

The settings are read first, because they may hold the log level; the log is set up after that,
and events that came before are not shown. -/

namespace Pluck

/-- Why settings in a file are refused. -/
inductive Settings.FileError where
  | unreadable (path : String) (e : Command.ReadError)
  | refused (path : String) (e : Settings.Error)

def Settings.FileError.message : Settings.FileError → String
  | .unreadable path e => "Failed to read config file at '" ++ path ++ "': " ++ e.message
  | .refused path e => "Invalid config in '" ++ path ++ "': " ++ e.message

namespace Command

variable {m : Type → Type} [Monad m]

/-- The settings of a file. -/
def loadSettings (around : Surroundings m) (path : String) :
    m (Except Settings.FileError Settings) := do
  match ← around.readFile path with
  | .error e => return .error (.unreadable path e)
  | .ok text =>
      match Settings.ofToml around.tomlFault text with
      | .error e => return .error (.refused path e)
      | .ok settings => return .ok settings

/-- Why a run fails. -/
inductive Failure where
  | arguments (e : ArgumentError)
  | settings (e : Settings.FileError)
  | selector (message : String)
  | settingsSelector (e : Settings.Error)
  | noSelector
  | inputFile (path : String) (e : ReadError)
  | stdin (e : ReadError)
  | inputNotJson (message : String)

def notJsonMessage (message : String) : String := "Input is not valid JSON: " ++ message

def Failure.message : Failure → String
  | .arguments e => e.message
  | .settings e => e.message
  | .selector message => "Invalid --selector: " ++ message
  | .settingsSelector e => e.message
  | .noSelector => "No selector given\n" ++ usage
  | .inputFile path e => "Failed to read input file at '" ++ path ++ "': " ++ e.message
  | .stdin e => "Failed to read input from stdin: " ++ e.message
  | .inputNotJson message => notJsonMessage message

/-- All that a run does: what it prints, why it fails, and its events before and after the log
was set up. -/
structure Outcome where
  stdout : String := ""
  failure : Option Failure := none
  early : List Event := []
  log : Option Filter := none
  events : List Event := []

namespace Outcome

def exitCode (outcome : Outcome) : Nat := if outcome.failure.isSome then 1 else 0

/-- The events that the log shows. -/
def shown (outcome : Outcome) : List Event :=
  match outcome.log with
  | some filter => outcome.events.filter filter.shows
  | none => []

/-- What is written to standard error: what the filter did not understand, the events that it
shows, and why the run fails. -/
def stderr (outcome : Outcome) : String :=
  let texts := (outcome.log.map Filter.complaints).getD [] ++ outcome.shown.map Event.line ++
    (outcome.failure.map Failure.message).toList
  String.join (texts.map (· ++ "\n"))

def stderrLines (outcome : Outcome) : List String := textLines outcome.stderr

end Outcome

/-- The settings of a run before it reads its selector: those of the file, if one is named, under
what the arguments say. -/
def Arguments.apply (arguments : Arguments) (settings : Settings) : Settings :=
  { settings with
    output := if arguments.pretty then .pretty else settings.output
    input := arguments.input.or settings.input }

/-- The selector of the arguments, or else that of the settings. -/
def chooseSelector (arguments : Arguments) (settings : Settings) : Except Failure Selector :=
  match arguments.selector with
  | some text =>
      match Selector.ofUserText text with
      | .error message => .error (.selector message)
      | .ok selector => .ok selector
  | none =>
      match settings.parsedSelector with
      | .error e => .error (.settingsSelector e)
      | .ok none => .error .noSelector
      | .ok (some selector) => .ok selector

/-- The text of the input: a file, or standard input if no path is set. -/
def readInput (around : Surroundings m) (path : Option String) : m (Except Failure String) := do
  match path with
  | some path =>
      match ← around.readFile path with
      | .error e => return .error (.inputFile path e)
      | .ok text => return .ok text
  | none =>
      match ← around.readStdin with
      | .error e => return .error (.stdin e)
      | .ok text => return .ok text

/-- The text of a result. -/
def render (form : OutputForm) (value : Json) : String :=
  match form with
  | .compact => value.text
  | .pretty => value.indentedText

/-- Extracts from the text of an input, once the selector is known. -/
def finish (settings : Settings) (selector : Selector) (outcome : Outcome) (text : String) :
    Outcome :=
  match Json.read text with
  | .error message =>
      { outcome with
        failure := some (.inputNotJson message)
        events := outcome.events ++ [⟨.error, commandTarget, notJsonMessage message⟩] }
  | .ok input =>
      { outcome with
        stdout := render settings.output (selector.extract input) ++ "\n"
        events := outcome.events ++ selector.extractionEvents input }

def selectorEvent (selector : Selector) : Event :=
  ⟨.debug, commandTarget,
    "Using selector " ++ selector.text ++ " (depth " ++ selector.depth.repr ++ ")"⟩

/-- A run with its settings at hand; `outcome` holds what has happened so far. -/
def runWith (around : Surroundings m) (arguments : Arguments) (settings : Settings)
    (outcome : Outcome) : m Outcome :=
  match chooseSelector arguments settings with
  | .error e => return { outcome with failure := some e }
  | .ok selector => do
      let outcome := { outcome with events := [selectorEvent selector] }
      match ← readInput around settings.input with
      | .error e => return { outcome with failure := some e }
      | .ok text => return finish settings selector outcome text

/-- The settings of a run and the events of reading them. -/
def startSettings (around : Surroundings m) (arguments : Arguments) :
    m (Except Settings.FileError (Settings × List Event)) := do
  match arguments.config with
  | none => return .ok ({}, [])
  | some path =>
      match ← loadSettings around path with
      | .error e => return .error e
      | .ok settings => return .ok (settings, settings.warnings)

/-- A run. The log level of the environment goes before that of the settings. -/
def run (around : Surroundings m) (args : List String) (logLevel : Option String) : m Outcome := do
  match Request.ofList args with
  | .error e => return { failure := some (.arguments e) }
  | .ok .version => return { stdout := versionLine ++ "\n" }
  | .ok .help => return { stdout := usage ++ "\n" }
  | .ok (.run arguments) =>
      match ← startSettings around arguments with
      | .error e => return { failure := some (.settings e) }
      | .ok (settings, early) =>
          let log := Filter.ofText (logLevel.getD settings.logLevel)
          runWith around arguments (arguments.apply settings) { early, log := some log }

/-- A run that finds some files, with some bytes as its standard input. -/
def runIn (directory : Directory) (stdin : ByteArray) (args : List String)
    (logLevel : Option String) : Outcome :=
  (Id.run ((run directory.surroundings args logLevel).run stdin)).1

end Command
end Pluck
