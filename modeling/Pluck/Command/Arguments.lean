/-! The arguments of the command line. -/

namespace Pluck
namespace Command

def usage : String :=
  "Usage: jbp-extract [--config FILE] [--selector JSON] [--pretty] [INPUT]"

def versionLine : String := "jbp-extract version 0.3.1"

/-- What the arguments of a run say. -/
structure Arguments where
  config : Option String := none
  selector : Option String := none
  pretty : Bool := false
  input : Option String := none
deriving DecidableEq

inductive ArgumentError where
  | valueMissing (flag : String)
  | unknownFlag (flag : String)
  | secondInput
deriving DecidableEq

def ArgumentError.message : ArgumentError → String
  | .valueMissing flag => flag ++ " flag requires a value"
  | .unknownFlag flag => "Unknown flag " ++ flag ++ "\n" ++ usage
  | .secondInput => "Only one INPUT may be given\n" ++ usage

def isFlag (arg : String) : Bool := ['-', '-'].isPrefixOf arg.toList

/-- Takes in the arguments from the left. A flag that comes again takes its last value. -/
def Arguments.ofList (taken : Arguments) : List String → Except ArgumentError Arguments
  | [] => .ok taken
  | arg :: rest =>
      if arg = "--config" then
        match rest with
        | [] => .error (.valueMissing arg)
        | value :: rest => Arguments.ofList { taken with config := some value } rest
      else if arg = "--selector" then
        match rest with
        | [] => .error (.valueMissing arg)
        | value :: rest => Arguments.ofList { taken with selector := some value } rest
      else if arg = "--pretty" then Arguments.ofList { taken with pretty := true } rest
      else if isFlag arg then .error (.unknownFlag arg)
      else if taken.input.isSome then .error .secondInput
      else Arguments.ofList { taken with input := some arg } rest

/-- What is asked for. -/
inductive Request where
  | version
  | help
  | run (arguments : Arguments)
deriving DecidableEq

/-- The version and the help may be asked for anywhere, even in place of a value. -/
def Request.ofList (args : List String) : Except ArgumentError Request :=
  if "--version" ∈ args then .ok .version
  else if "--help" ∈ args ∨ "-h" ∈ args then .ok .help
  else
    match Arguments.ofList {} args with
    | .error e => .error e
    | .ok arguments => .ok (.run arguments)

end Command
end Pluck
