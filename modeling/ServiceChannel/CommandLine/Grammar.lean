import ServiceChannel.CommandLine.Value

/-!
# Grammars of command lines

A grammar lists the options, the positional arguments and the commands that may stand on a command
line; scanning finds them.

An option's value may follow as the next argument or after an equals sign. A value that is waited
for is judged only when the next known option or argument begins, or at the end: an argument that
is not known at all is reported first.

- `Grammar.scan`: goes through the arguments, up to a command if there is one.
- `Scan.resolve`: judges the option that is waiting.
-/

namespace ServiceChannel.CommandLine

/-! ## Grammars -/

/-- The options and arguments by name. -/
inductive OptionName where
  | verbose
  | logFile
  | logFormat
  | help
  | version
  | socketDir
  | socketName
  | name
  | dns
  | backlog
  | allowExec
  | stopTimeout
  | request
  | connectivity
  | imei
  | mac
  | phoneNumber
  | execPath
  | execArg
  | ack
  | wait
  deriving DecidableEq

/-- What an option does when it is found. -/
inductive OptionEffect where
  /-- Is there, at most once. -/
  | flag
  /-- Is there, any number of times. -/
  | count
  /-- Ends the scan with the request for help. -/
  | help
  /-- Ends the scan with the request for the version. -/
  | version
  /-- Takes one value, at most once. -/
  | value (kind : ValueKind)
  /-- Takes one value each time, whatever it looks like. -/
  | anyValues (kind : ValueKind)
  deriving DecidableEq

namespace OptionEffect

/-- The kind of value that is taken. -/
def valueKind? : OptionEffect → Option ValueKind
  | .value kind | .anyValues kind => some kind
  | _ => none

/-- The option may be given more than once. -/
def repeats : OptionEffect → Bool
  | .count | .anyValues _ => true
  | _ => false

/-- The option takes any argument for its value, also one that looks like an option. -/
def takesAnything : OptionEffect → Bool
  | .anyValues _ => true
  | _ => false

end OptionEffect

/-- An option or a positional argument. -/
structure OptionSpec where
  name : OptionName
  effect : OptionEffect
  /-- The word behind two dashes. -/
  long : Option String := none
  /-- The letter behind one dash. -/
  short : Option Char := none
  deriving DecidableEq

/-- What may stand on a command line. -/
structure Grammar where
  options : List OptionSpec
  /-- The positional arguments, in order. -/
  positionals : List OptionSpec := []
  /-- The commands. -/
  commands : List String := []
  deriving DecidableEq

namespace Grammar

/-- The option behind two dashes. -/
def long? (grammar : Grammar) (word : String) : Option OptionSpec :=
  grammar.options.find? (·.long = some word)

/-- The option behind one dash. -/
def short? (grammar : Grammar) (letter : Char) : Option OptionSpec :=
  grammar.options.find? (·.short = some letter)

end Grammar

/-! ## Scanning -/

/-- Options and arguments with their values, in the order in which they were found. -/
abbrev Matches := List (OptionName × Value)

/-- The state of a scan. -/
structure Scan where
  found : Matches := []
  /-- An option or argument that is not judged yet, with its value if that has come. -/
  pending : Option (OptionSpec × Option String) := none
  /-- The positional arguments that may still come. -/
  positionals : List OptionSpec
  deriving DecidableEq

namespace Scan

/-- The option that waits for its value as the next argument. -/
def expecting? (scan : Scan) : Option OptionSpec :=
  match scan.pending with
  | some (spec, none) => some spec
  | _ => none

/-- Adds an option with its value, unless it was there and may not be again. -/
def add (scan : Scan) (spec : OptionSpec) (value : Except Error Value) : Except Error Scan :=
  if !spec.effect.repeats && scan.found.any (·.1 = spec.name) then .error .argumentConflict
  else value.map fun value => { scan with found := scan.found ++ [(spec.name, value)] }

/-- Adds an option with the text of its value. -/
def addText (scan : Scan) (spec : OptionSpec) (text : String) : Except Error Scan :=
  match spec.effect.valueKind? with
  | some kind => scan.add spec (kind.read text)
  | none => scan.add spec (.ok .present)

/-- Judges the option that is waiting. -/
def resolve (scan : Scan) : Except Error Scan :=
  match scan.pending with
  | none => .ok scan
  | some (_, none) => .error .invalidValue
  | some (spec, some text) => { scan with pending := none }.addText spec text

/-- An option without a value was found. -/
def flag (scan : Scan) (spec : OptionSpec) : Except Error Scan :=
  match scan.resolve with
  | .error error => .error error
  | .ok scan =>
    match spec.effect with
    | .help => .error .displayHelp
    | .version => .error .displayVersion
    | _ => scan.add spec (.ok .present)

/-- An option with its value behind an equals sign was found. -/
def attached (scan : Scan) (spec : OptionSpec) (text : String) : Except Error Scan :=
  if spec.effect.valueKind?.isNone then .error .tooManyValues
  else scan.resolve.bind (·.addText spec text)

/-- An option that takes a value was found without one. -/
def awaiting (scan : Scan) (spec : OptionSpec) : Except Error Scan :=
  scan.resolve.map fun scan => { scan with pending := some (spec, none) }

/-- An argument that may be positional. A command line that has commands takes it for one of
them, and it is none. -/
def positional (scan : Scan) (grammar : Grammar) (trailing : Bool) (text : String) :
    Except Error Scan :=
  match scan.positionals with
  | spec :: rest =>
    scan.resolve.map fun scan =>
      { scan with pending := some (spec, some text), positionals := rest }
  | [] =>
    if grammar.commands.isEmpty || (trailing && grammar.commands.contains text) then
      .error .unknownArgument
    else .error .invalidSubcommand

/-- The letters behind one dash, one by one. -/
def letters (scan : Scan) (grammar : Grammar) : List Char → Except Error Scan
  | [] => .ok scan
  | letter :: rest =>
    match grammar.short? letter with
    | none => .error .unknownArgument
    | some spec =>
      match scan.flag spec with
      | .error error => .error error
      | .ok scan => scan.letters grammar rest

/-- A word behind two dashes, with its value if there is an equals sign. -/
def word (scan : Scan) (grammar : Grammar) (text : List Char) : Except Error Scan :=
  let name := text.takeWhile (· ≠ '=')
  match grammar.long? (String.ofList name) with
  | none => .error .unknownArgument
  | some spec =>
    match text.drop name.length with
    | _ :: value => scan.attached spec (String.ofList value)
    | [] => if spec.effect.valueKind?.isSome then scan.awaiting spec else scan.flag spec

/-- An argument that is neither a command nor the end of the options. -/
def argument (scan : Scan) (grammar : Grammar) (text : String) : Except Error Scan :=
  let value (spec : OptionSpec) : Except Error Scan :=
    .ok { scan with pending := some (spec, some text) }
  match scan.expecting?, text.toList with
  | some spec, chars =>
    if spec.effect.takesAnything then value spec
    else
      match chars with
      | '-' :: '-' :: word => scan.word grammar word
      | '-' :: letter :: rest => scan.letters grammar (letter :: rest)
      | _ => value spec
  | none, '-' :: '-' :: word => scan.word grammar word
  | none, '-' :: letter :: rest => scan.letters grammar (letter :: rest)
  | none, _ => scan.positional grammar false text

end Scan

namespace Grammar

/-- The arguments behind the end of the options, all positional. -/
def scanTrailing (grammar : Grammar) (scan : Scan) : List String → Except Error Scan
  | [] => .ok scan
  | text :: rest =>
    match scan.positional grammar true text with
    | .error error => .error error
    | .ok scan => grammar.scanTrailing scan rest

/-- Goes through the arguments. Stops at a command, and gives it with the arguments behind it. -/
def scanFrom (grammar : Grammar) (scan : Scan) :
    List String → Except Error (Scan × Option (String × List String))
  | [] => .ok (scan, none)
  | text :: rest =>
    if scan.expecting?.isNone && grammar.commands.contains text then .ok (scan, some (text, rest))
    else if text = "--" && !scan.expecting?.any (·.effect.takesAnything) then
      (grammar.scanTrailing scan rest).map (·, none)
    else
      match scan.argument grammar text with
      | .error error => .error error
      | .ok scan => grammar.scanFrom scan rest

/-- Goes through the arguments from the first. -/
def scan (grammar : Grammar) (arguments : List String) :
    Except Error (Scan × Option (String × List String)) :=
  grammar.scanFrom { positionals := grammar.positionals } arguments

end Grammar
end ServiceChannel.CommandLine
