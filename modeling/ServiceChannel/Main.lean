import ServiceChannel.Program.Run

/-!
# The program on the standard streams

The command line at work. The connection between host and agent is on standard input and output,
so a socket listener can start either side; what is meant for people goes to standard error.

- `main`: reads the arguments, and serves or plays the agent.
-/

namespace ServiceChannel.Main

open Program

/-! ## Streams -/

/-- Bytes as they are read and written. -/
def toArray (bytes : Bytes) : ByteArray := ⟨bytes.toArray⟩

/-- Reads one frame: its header and what the header announces, unless that is more than an agent
may send. At the end of the stream there is less. -/
def readFrame (input : IO.FS.Stream) : IO Bytes := do
  let header := (← input.read (USize.ofNat Frame.headerLength)).toList
  let size := Bytes.toNat header
  if header.length < Frame.headerLength ∨ size = 0 ∨ Client.maxMessageSize < size then return header
  return header ++ (← input.read (USize.ofNat size)).toList

/-- Writes bytes at once. -/
def writeBytes (output : IO.FS.Stream) (bytes : Bytes) : IO Unit := do
  if !bytes.isEmpty then
    output.write (toArray bytes)
    output.flush

/-! ## The end of a run -/

/-- Leaves what an outcome leaves, and gives its exit code. -/
def leave (outcome : Outcome) : IO UInt32 := do
  if let some log := outcome.log then
    if let some file := log.settings.file then
      IO.FS.withFile file .append fun handle => handle.putStr log.text
  IO.eprint outcome.errorOutput
  return UInt32.ofNat outcome.exitCode

/-! ## Serving -/

/-- What the service has written to the visitor, which is taken away. -/
def takeWritten (service : Service) (near : Handle) : Bytes × Service :=
  let (bytes, network) := service.world.network.takeInbox near
  (bytes, { service with world := service.world.withNetwork network })

/-- The service after bytes came from the visitor. -/
def receiveBytes (service : Service) (near : Handle) (bytes : Bytes) : Service :=
  let (_, world) := service.world.write { socket := near } bytes
  Service.attend { service with world := world }

/-- Serves until the container stops or the visitor is gone, which interrupts it. -/
partial def serveLoop (input output : IO.FS.Stream) (service : Service) (near : Handle) :
    IO Service := do
  let frame ← readFrame input
  let service :=
    if frame.isEmpty then
      (Service.attend { service with
        world := service.world.onNetwork (·.closeSocket near) }).interrupt
    else receiveBytes service near frame
  let (bytes, service) := takeWritten service near
  writeBytes output bytes
  if service.running then serveLoop input output service near else return service

/-- The serve command. -/
def serve (options : CommandLine.ServeOptions) (environment : Environment)
    (settings : LogSettings) : IO Outcome := do
  let config := options.config environment.socketDir
  let network := ({} : Network).onTree (·.withDirectory config.socketDir)
  let (result, service) := Service.start options environment.socketDir config.socketPath network
  match result.bind fun _ => (service.world.dial config.socketPath).mapError Error.io with
  | .error error => return service.outcome settings environment.unique (.error error)
  | .ok (near, world) =>
    let service ← serveLoop (← IO.getStdin) (← IO.getStdout)
      (Service.attend { service with world := world }) near
    return service.outcome settings environment.unique (.ok ())

/-! ## Playing the agent -/

/-- The agent command. -/
def agent (options : CommandLine.AgentOptions) (settings : LogSettings) : IO Outcome := do
  let outcome (events : List Event) (result : Except Error Unit) : Outcome :=
    .ofResult settings "" (.starting version :: events) "" result
  let framed := options.message.mapError Error.config |>.bind fun message =>
    (Client.frame message.encode).map fun frame => (message, frame)
  match framed with
  | .error error => return outcome [] (.error error)
  | .ok (message, frame) =>
    writeBytes (← IO.getStdout) frame
    let sent := [Event.messageSent message.code]
    if options.wait?.isNone then return outcome sent (.ok ())
    let (reply, _) := Client.poll ⟨← readFrame (← IO.getStdin)⟩
    match reply with
    | some (.ok reply) =>
      IO.eprintln reply.describe
      return outcome sent (.ok ())
    | some (.error error) => return outcome sent (.error error)
    | none => return outcome sent (.error .peerClosed)

/-- Makes the file of the log, if there is one. -/
def touchLog (file : Option String) : IO Unit :=
  match file with
  | some file => IO.FS.withFile file .append fun _ => pure ()
  | none => pure ()

/-- A text that no other run has. -/
def uniqueText : IO String := do
  let bytes ← IO.getRandomBytes 16
  return String.join (bytes.toList.map fun byte => Text.hexadecimal byte.toNat)

/-- Carries a command out, once its log can be kept. -/
def carryOut (invocation : CommandLine.Invocation) : IO UInt32 := do
  let environment : Environment :=
    ⟨← IO.getEnv "CML_SOCKET_DIR", ← IO.getEnv "RUST_LOG", ← uniqueText⟩
  try touchLog invocation.log.file
  catch error => return ← leave (.withoutLog (.refused (.io (.other (toString error)))))
  match LogSettings.ofOptions? invocation.log environment.logRules with
  | none => leave (.withoutLog .brokenDown)
  | some settings =>
    leave (← match invocation.command with
      | .serve options => serve options environment settings
      | .agent options => agent options settings)

end ServiceChannel.Main

/-- Reads the arguments and carries the command out. -/
def main (arguments : List String) : IO UInt32 := do
  match ServiceChannel.CommandLine.parse arguments with
  | .error error =>
    let outcome := ServiceChannel.Program.Outcome.refused error
    IO.print outcome.output
    ServiceChannel.Main.leave outcome
  | .ok invocation => ServiceChannel.Main.carryOut invocation
