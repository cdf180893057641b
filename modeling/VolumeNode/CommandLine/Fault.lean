/-!
# Command lines that are refused

A command line that cannot be obeyed is refused for a reason; asking for help or for the version is
one of them, and no failure.
-/

namespace VolumeNode.CommandLine

/-- Why a command line is not obeyed. -/
inductive Fault where
  | displayHelp
  | displayVersion
  /-- Nothing was asked for. -/
  | nothingAsked
  | missingSubcommand
  | invalidSubcommand
  | unknownArgument
  | missingArgument
  /-- Something was said twice that can be said once. -/
  | conflict
  /-- A value is missing or empty. -/
  | invalidValue
  /-- A switch was given a value. -/
  | needlessValue
  /-- A value is not understood. -/
  | refusedValue (reason : String)
  deriving DecidableEq, Repr

namespace Fault

/-- The name of a reason. -/
def name : Fault → String
  | displayHelp => "DisplayHelp"
  | displayVersion => "DisplayVersion"
  | nothingAsked => "DisplayHelpOnMissingArgumentOrSubcommand"
  | missingSubcommand => "MissingSubcommand"
  | invalidSubcommand => "InvalidSubcommand"
  | unknownArgument => "UnknownArgument"
  | missingArgument => "MissingRequiredArgument"
  | conflict => "ArgumentConflict"
  | invalidValue => "InvalidValue"
  | needlessValue => "TooManyValues"
  | refusedValue _ => "ValueValidation"

/-- Whether the user asked for a text and gets it. -/
def showsText : Fault → Bool
  | displayHelp | displayVersion => true
  | _ => false

/-- What the user is told. -/
def text : Fault → String
  | displayHelp => "Exposes container images as mounted file systems on this node"
  | displayVersion => "imagevol 0.1.0"
  | nothingAsked | missingSubcommand => "a subcommand is required"
  | invalidSubcommand => "no such subcommand"
  | unknownArgument => "unexpected argument"
  | missingArgument => "a required argument is missing"
  | conflict => "an argument is given more than once"
  | invalidValue => "a value is missing"
  | needlessValue => "a switch takes no value"
  | refusedValue reason => reason

/-- The exit status of a refusal. -/
def exitCode (f : Fault) : Nat :=
  if f.showsText then 0 else 2

end Fault

end VolumeNode.CommandLine
