import ServiceChannel.Program.Log

/-!
# Outcomes

What the program finds when it starts, and what it leaves when it ends.

- `Environment`: the variables that it reads.
- `Outcome`: its exit code, what it printed, and its log.
-/

namespace ServiceChannel.Program

/-- The program's name. -/
def name : String := "cml-service"

/-- The program's version. -/
def version : String := "0.1.0"

/-- What the program finds around it. -/
structure Environment where
  /-- The directory of sockets. -/
  socketDir : Option String := none
  /-- The rules of the log. -/
  logRules : Option String := none
  /-- What makes a container of this run unlike any other. -/
  unique : String := ""
  deriving DecidableEq

/-- What the program leaves when it ends. -/
structure Outcome where
  exitCode : Nat
  /-- What it printed. -/
  output : String := ""
  /-- What it printed as errors, among it a log that is kept in no file. -/
  errorOutput : String := ""
  /-- Its log, if it came to keep one. -/
  log : Option Log := none
  deriving DecidableEq

/-- The exit code of a program that broke down. -/
def breakdownCode : Nat := 101

namespace Outcome

/-- The outcome of a command line that is not carried out. -/
def refused (error : CommandLine.Error) : Outcome where
  exitCode := error.exitCode
  output := if error = .displayVersion then name ++ " " ++ version ++ "\n" else ""

/-- The outcome when no log can be kept. -/
def withoutLog : LogFault → Outcome
  | .refused error =>
    { exitCode := 1, errorOutput := "Failed to initialize logging: " ++ error.message ++ "\n" }
  | .brokenDown => { exitCode := breakdownCode }

/-- The outcome of a run that left a log. -/
def ofLog (exitCode : Nat) (output complaint : String) (log : Log) : Outcome where
  exitCode := exitCode
  output := output
  errorOutput := (if log.settings.file.isNone then log.text else "") ++ complaint
  log := some log

/-- The outcome of a command that was carried out, or failed; `container` is the description of
the container that its events are about. -/
def ofResult (settings : LogSettings) (container : String) (events : List Event)
    (output : String) : Except Error Unit → Outcome
  | .ok () => ofLog 0 output "" (settings.log container events)
  | .error error =>
    ofLog 1 output (name ++ ": " ++ error.message ++ "\n")
      (settings.log container (events ++ [.failed error]))

end Outcome
end ServiceChannel.Program
