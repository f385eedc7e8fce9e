import ServiceChannel.CommandLine.Grammar
import ServiceChannel.Config
import ServiceChannel.Message.Agent

/-!
# Options of the program

The two commands of the program, `serve` and `agent`, with all their options.

- `CommandLine.parse`: reads a command line.
- `AgentOptions.message`: the message that the agent command sends.
-/

namespace ServiceChannel.CommandLine

/-! ## Grammars of the program -/

/-- Options that may stand on either side of the command. -/
def sharedSpecs : List OptionSpec :=
  [{ name := .verbose, effect := .count, long := some "verbose", short := some 'v' },
   { name := .logFile, effect := .value .path, long := some "log-file" },
   { name := .logFormat, effect := .value .logFormat, long := some "log-format" },
   { name := .help, effect := .help, long := some "help", short := some 'h' }]

/-- Where the socket is, for either command. -/
def socketSpecs : List OptionSpec :=
  [{ name := .socketDir, effect := .value .path, long := some "socket-dir" },
   { name := .socketName, effect := .value .text, long := some "socket-name" }]

/-- The command line up to the command. -/
def rootGrammar : Grammar where
  options := sharedSpecs ++
    [{ name := .version, effect := .version, long := some "version", short := some 'V' }]
  commands := ["serve", "agent", "help"]

/-- The command line behind `serve`. -/
def serveGrammar : Grammar where
  options := sharedSpecs ++ socketSpecs ++
    [{ name := .name, effect := .value .text, long := some "name" },
     { name := .dns, effect := .value .text, long := some "dns" },
     { name := .backlog, effect := .value .int32, long := some "backlog" },
     { name := .allowExec, effect := .flag, long := some "allow-exec" },
     { name := .stopTimeout, effect := .value .seconds, long := some "stop-timeout" }]

/-- The command line behind `agent`. -/
def agentGrammar : Grammar where
  options := sharedSpecs ++ socketSpecs ++
    [{ name := .connectivity, effect := .value .connectivity, long := some "connectivity" },
     { name := .imei, effect := .value .text, long := some "imei" },
     { name := .mac, effect := .value .text, long := some "mac" },
     { name := .phoneNumber, effect := .value .text, long := some "phone-number" },
     { name := .execPath, effect := .value .text, long := some "exec-path" },
     { name := .execArg, effect := .anyValues .text, long := some "exec-arg" },
     { name := .ack, effect := .value .text, long := some "ack" },
     { name := .wait, effect := .value .seconds, long := some "wait" }]
  positionals := [{ name := .request, effect := .value .request }]

/-! ## What was found -/

namespace Matches

/-- The value of an option, if it was given. -/
def value? (found : Matches) (option : OptionName) : Option Value := found.lookup option

/-- The option was given. -/
def has (found : Matches) (option : OptionName) : Bool := (found.value? option).isSome

/-- The text of an option. -/
def text? (found : Matches) (option : OptionName) : Option String :=
  match found.value? option with
  | some (.text text) => some text
  | _ => none

/-- Every text of an option, in order. -/
def texts (found : Matches) (option : OptionName) : List String :=
  found.filterMap fun
    | (other, .text text) => if other = option then some text else none
    | _ => none

/-- The number of an option. -/
def int32? (found : Matches) (option : OptionName) : Option Int32 :=
  match found.value? option with
  | some (.int32 number) => some number
  | _ => none

/-- The seconds of an option. -/
def seconds? (found : Matches) (option : OptionName) : Option UInt64 :=
  match found.value? option with
  | some (.seconds number) => some number
  | _ => none

/-- The connectivity of an option. -/
def connectivity? (found : Matches) (option : OptionName) : Option Connectivity :=
  match found.value? option with
  | some (.connectivity connectivity) => some connectivity
  | _ => none

/-- How often an option was given; the count stops at 255. -/
def count (found : Matches) (option : OptionName) : Nat :=
  min 255 (found.countP (·.1 = option))

end Matches

/-! ## Options -/

/-- The options of the program log. -/
structure LogOptions where
  verbosity : Nat
  file : Option String
  format : LogFormat
  deriving DecidableEq

/-- Where the socket is. -/
structure SocketOptions where
  directory : Option String
  name : Option String
  deriving DecidableEq

/-- The options of `serve`. -/
structure ServeOptions where
  socket : SocketOptions
  name : String
  dns : Option String
  backlog : Option Int32
  allowExec : Bool
  /-- Seconds for the agent to shut down. -/
  stopTimeout : UInt64
  deriving DecidableEq

/-- The options of `agent`. -/
structure AgentOptions where
  socket : SocketOptions
  request : Request
  connectivity : Option Connectivity
  identity : Identity
  execPath : Option String
  execArgs : List String
  ack : Option String
  /-- Seconds to wait for a reply. -/
  waitSeconds : UInt64
  deriving DecidableEq

/-- What the program is to do. -/
inductive Command where
  | serve (options : ServeOptions)
  | agent (options : AgentOptions)
  deriving DecidableEq

/-- A whole command line. -/
structure Invocation where
  log : LogOptions
  command : Command
  deriving DecidableEq

/-! ## Reading a command line -/

/-- The options of the log: those behind the command win over those before it, one by one. -/
def logOptions (before behind : Matches) : LogOptions where
  verbosity := if behind.has .verbose then behind.count .verbose else before.count .verbose
  file := behind.text? .logFile <|> before.text? .logFile
  format :=
    match behind.value? .logFormat <|> before.value? .logFormat with
    | some (.logFormat format) => format
    | _ => .text

/-- Where the socket is. -/
def socketOptions (found : Matches) : SocketOptions :=
  ⟨found.text? .socketDir, found.text? .socketName⟩

/-- The options of `serve` with their defaults. -/
def serveOptions (found : Matches) : ServeOptions where
  socket := socketOptions found
  name := (found.text? .name).getD "standalone"
  dns := found.text? .dns
  backlog := found.int32? .backlog
  allowExec := found.has .allowExec
  stopTimeout := (found.seconds? .stopTimeout).getD 5

/-- The options of `agent` with their defaults; the request is needed. -/
def agentOptions (found : Matches) : Except Error AgentOptions :=
  match found.value? .request with
  | some (.request request) =>
    .ok {
      socket := socketOptions found
      request := request
      connectivity := found.connectivity? .connectivity
      identity := ⟨found.text? .imei, found.text? .mac, found.text? .phoneNumber⟩
      execPath := found.text? .execPath
      execArgs := found.texts .execArg
      ack := found.text? .ack
      waitSeconds := (found.seconds? .wait).getD 0 }
  | _ => .error .missingRequiredArgument

/-- Reads all that is behind a command. -/
def parseCommand (grammar : Grammar) (arguments : List String) : Except Error Matches :=
  match grammar.scan arguments with
  | .error error => .error error
  | .ok (scan, _) => scan.resolve.map (·.found)

/-- Help on a command: it has to be one, and nothing may follow. -/
def parseHelp : List String → Error
  | [] => .displayHelp
  | [topic] => if rootGrammar.commands.contains topic then .displayHelp else .invalidSubcommand
  | _ => .invalidSubcommand

/-- Reads the command `name` with the arguments behind it, and gives it with what was found. -/
def parseNamed (name : String) (arguments : List String) : Except Error (Command × Matches) :=
  if name = "serve" then
    (parseCommand serveGrammar arguments).map fun found => (.serve (serveOptions found), found)
  else if name = "agent" then
    match parseCommand agentGrammar arguments with
    | .error error => .error error
    | .ok found => (agentOptions found).map fun options => (.agent options, found)
  else .error (parseHelp arguments)

/-- Reads the arguments behind the program's name. What is behind the command is judged first. -/
def parse (arguments : List String) : Except Error Invocation :=
  match rootGrammar.scan arguments with
  | .error error => .error error
  | .ok (scan, none) =>
    match scan.resolve with
    | .error error => .error error
    | .ok scan =>
      .error (if scan.found.isEmpty then .displayHelpOnMissing else .missingSubcommand)
  | .ok (scan, some (name, rest)) =>
    match parseNamed name rest with
    | .error error => .error error
    | .ok (command, behind) =>
      scan.resolve.map fun scan => ⟨logOptions scan.found behind, command⟩

/-! ## What the options mean -/

/-- The configuration of the socket in an environment. -/
def SocketOptions.config (options : SocketOptions) (environment : Option String) : Config :=
  let base := Config.ofEnvironment environment
  { base with
    socketDir := options.directory.getD base.socketDir
    socketName := options.name.getD base.socketName }

/-- The configuration of the served socket. -/
def ServeOptions.config (options : ServeOptions) (environment : Option String) : Config :=
  let base := options.socket.config environment
  { base with backlog := options.backlog.getD base.backlog }

/-- How long to wait for a reply, if at all. -/
def AgentOptions.wait? (options : AgentOptions) : Option UInt64 :=
  if options.waitSeconds = 0 then none else some options.waitSeconds

/-- The message to send; an option that its kind needs may be missing. -/
def AgentOptions.message (options : AgentOptions) : Except String AgentMessage :=
  match options.request with
  | .bootCompleted => .ok .bootCompleted
  | .audioSuspendCompleted => .ok .audioSuspendCompleted
  | .audioResumeCompleted => .ok .audioResumeCompleted
  | .suspendCompleted => .ok .suspendCompleted
  | .resumeCompleted => .ok .resumeCompleted
  | .shutdown => .ok .shutdown
  | .masterClear => .ok .masterClear
  | .connectivity =>
    match options.connectivity with
    | some connectivity => .ok (.connectivityChange connectivity)
    | none => .error "connectivity requires --connectivity"
  | .identity =>
    if options.identity.isEmpty then
      .error "identity requires --imei, --mac or --phone-number"
    else .ok (.identity options.identity)
  | .nameRequest => .ok .nameRequest
  | .dnsRequest => .ok .dnsRequest
  | .exec =>
    match options.execPath with
    | some path => .ok (.exec path options.execArgs)
    | none => .error "exec requires --exec-path"
  | .auditAck =>
    match options.ack with
    | some ack => .ok (.auditAck (Bytes.ofText ack))
    | none => .error "audit-ack requires --ack"

end ServiceChannel.CommandLine
