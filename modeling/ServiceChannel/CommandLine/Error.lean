/-!
# Command-line errors

Why a command line is not carried out. Asking for help or for the version ends it as well, but is
no failure.

- `CommandLine.Error.exitCode`: what the program ends with.
-/

namespace ServiceChannel.CommandLine

/-- Why a command line is not carried out. -/
inductive Error where
  /-- Help was asked for. -/
  | displayHelp
  /-- The version was asked for. -/
  | displayVersion
  /-- There is nothing on the command line. -/
  | displayHelpOnMissing
  /-- There are options but no command. -/
  | missingSubcommand
  /-- The command does not exist. -/
  | invalidSubcommand
  /-- An option does not exist, or there is an argument too many. -/
  | unknownArgument
  /-- A value is missing, or is not among those allowed. -/
  | invalidValue
  /-- A value cannot be read. -/
  | valueValidation
  /-- An option that takes no value has one. -/
  | tooManyValues
  /-- An option is given twice. -/
  | argumentConflict
  /-- A needed argument is missing. -/
  | missingRequiredArgument
  deriving DecidableEq

/-- What the program ends with. -/
def Error.exitCode : Error → Nat
  | .displayHelp | .displayVersion => 0
  | _ => 2

end ServiceChannel.CommandLine
