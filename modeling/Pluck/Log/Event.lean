import Pluck.Extraction
import Pluck.Text.Quoted

/-! Log events: how grave each is, which part of the program reports it, and its message. -/

namespace Pluck

/-- Levels from the gravest to the most detailed. -/
inductive Level where
  | error
  | warn
  | info
  | debug
  | trace
deriving DecidableEq

namespace Level

/-- The place among the levels; `off` would be zero. -/
def rank : Level → Nat
  | .error => 1
  | .warn => 2
  | .info => 3
  | .debug => 4
  | .trace => 5

def name : Level → String
  | .error => "ERROR"
  | .warn => "WARN"
  | .info => "INFO"
  | .debug => "DEBUG"
  | .trace => "TRACE"

end Level

structure Event where
  level : Level
  target : String
  message : String
deriving DecidableEq

namespace Event

/-- The line without its target. -/
def brief (event : Event) : String := event.level.name ++ " " ++ event.message

end Event

/-- The part of the program that extracts. -/
def extractionTarget : String := "jbp_extract::core::extractor"

/-- The part of the program that reads its configuration. -/
def configTarget : String := "jbp_extract::config"

/-- The part of the program that runs the command line. -/
def commandTarget : String := "jbp_extract"

def Omission.message : Omission → String
  | .field key => "Field '" ++ key ++ "' not found, omitting"
  | .nested keys => "No nested key of " ++ quotedList keys ++ " present, omitting"
  | .notArray => "Each-item selector applied to a non-array, yielding []"

def Omission.event (omission : Omission) : Event := ⟨.trace, extractionTarget, omission.message⟩

/-- The events of extracting by a selector. -/
def Selector.extractionEvents (selector : Selector) (input : Json) : List Event :=
  (selector.omissions input).map Omission.event

/-- The number of entries or elements at the top. -/
def Json.topCount : Json → Nat
  | .array elements => elements.length
  | .object entries => entries.length
  | _ => 0

/-- The events of extracting by a selector in its JSON form. -/
def extractEvents (pointer input : Json) : List Event :=
  match Selector.ofJson pointer with
  | .error e =>
      [⟨.debug, extractionTarget, "Rejected selector " ++ pointer.text ++ ": " ++ e.message⟩]
  | .ok selector =>
      selector.extractionEvents input ++
        [⟨.debug, extractionTarget, "Extracted " ++ (selector.extract input).topCount.repr ++
          " top-level entries with selector of depth " ++ selector.depth.repr⟩]

end Pluck
