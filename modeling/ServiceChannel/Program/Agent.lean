import ServiceChannel.CommandLine.Options
import ServiceChannel.Message.Description
import ServiceChannel.Session.Agents

/-!
# The agent command

Plays the companion agent for one message: connects, sends it, prints the reply if it waits for
one, and goes.

- `Exchange`: what came of it.
- `exchange`: does it.
-/

namespace ServiceChannel.Program

open Session (World)

/-- What the agent command did and what came of it. -/
structure Exchange where
  events : List Event := []
  output : String := ""
  result : Except Error Unit := .ok ()

/-- The name that the agent goes by. -/
def agentName : String := "agent"

/-- Waits for the reply to a message that was sent. -/
def awaitReply (sent : List Event) (world : World) : Exchange × World :=
  match world.receive agentName with
  | (none, world) => ({ events := sent ++ [.noReply] }, world)
  | (some (.ok reply), world) => ({ events := sent, output := reply.describe ++ "\n" }, world)
  | (some (.error error), world) => ({ events := sent, result := .error error }, world)

/-- Sends a message on a new connection, and waits for a reply if it is asked to. -/
def converse (message : AgentMessage) (waits : Bool) (connected : List Event)
    (agent : Session.Agent) (world : World) : Exchange × World :=
  match world.writePayload agent message.encode with
  | (.error error, world) => ({ events := connected, result := .error error }, world)
  | (.ok (), world) =>
    let sent := connected ++ [.messageSent message.code]
    if waits then awaitReply sent world else ({ events := sent }, world)

/-- The whole command. A message that lacks an option is refused before anything else. -/
def exchange (options : CommandLine.AgentOptions) (socketDir : Option String) (world : World) :
    Exchange × World :=
  match options.message with
  | .error text => ({ result := .error (.config text) }, world)
  | .ok message =>
    let path := (options.socket.config socketDir).socketPath
    match world.dial path with
    | .error error => ({ result := .error (.io error) }, world)
    | .ok (socket, world) =>
      let agent := world.newAgent socket
      let (exchange, world) := converse message options.wait?.isSome [.connectedToSocket path] agent
        (world.setAgent agentName agent)
      (exchange, world.dropAgent agentName)

end ServiceChannel.Program
