import ServiceChannel.CommandLine.Options
import ServiceChannel.Log.Filter
import ServiceChannel.Log.Line
import ServiceChannel.Network

/-!
# The log of the program

How the program keeps its log: the file it writes to, what it keeps and in which form.

- `LogSettings.ofOptions?`: the settings that options and environment ask for.
- `setUpLog`: opens the log; a process keeps one log only.
-/

namespace ServiceChannel.Program

/-- How a log is kept. -/
structure LogSettings where
  filter : LogFilter
  format : LogFormat
  /-- Lines say which place in the program they come from. -/
  located : Bool
  /-- Where it is kept; without a file it goes to the terminal. -/
  file : Option String
  deriving DecidableEq

/-- The verbosity from which on lines say where they come from. -/
def locatedFrom : Nat := 3

/-- The settings of the options; `rules` are the environment's, which win over the verbosity. None
if the program cannot go on with those. -/
def LogSettings.ofOptions? (options : CommandLine.LogOptions) (rules : Option String) :
    Option LogSettings :=
  (LogFilter.choose? rules options.verbosity).map fun filter =>
    { filter := filter
      format := options.format
      located := locatedFrom ≤ options.verbosity
      file := options.file }

/-- A log: its settings, and the events that it holds. -/
structure Log where
  settings : LogSettings
  /-- The description of the container that the events are about. -/
  container : String
  events : List Event
  deriving DecidableEq

/-- The log of a run with these events. -/
def LogSettings.log (settings : LogSettings) (container : String) (events : List Event) : Log :=
  ⟨settings, container, settings.filter.keep events⟩

/-- The log as it is written, one line for each event. -/
def Log.text (log : Log) : String :=
  let terminal := log.settings.file.isNone
  String.join (log.events.map fun event =>
    log.settings.format.line terminal log.container event ++ "\n")

/-! ## Setting up -/

/-- Why no log can be kept. -/
inductive LogFault where
  | refused (error : Error)
  /-- Its rules cannot be read, and the program cannot go on. -/
  | brokenDown
  deriving DecidableEq

/-- Opens the file of the log, if there is one. -/
def openLogFile (file : Option String) (network : Network) : Except SystemError Network :=
  match file with
  | some file => (network.tree.openFile file).map fun tree => network.onTree fun _ => tree
  | none => .ok network

/-- Sets the log up: the file is opened first, then the rules are read, and at last the log has to
be the only one. -/
def setUpLog (options : CommandLine.LogOptions) (rules : Option String) (installed : Bool)
    (network : Network) : Except LogFault LogSettings × Network :=
  match openLogFile options.file network with
  | .error error => (.error (.refused (.io error)), network)
  | .ok network =>
    match LogSettings.ofOptions? options rules with
    | none => (.error .brokenDown, network)
    | some settings =>
      (if installed then .error (.refused (.io .logInstalled)) else .ok settings, network)

end ServiceChannel.Program
