import ServiceChannel.Channel.Control

/-!
# Dispatch

What a message from the agent does. Whatever goes wrong while it is handled is logged and stays
here; only a payload that is no message at all is reported, and ends the connection.

- `Channel.handle`: one message, `handle_message`.
- `Channel.handlePayload`: one payload, `handle_payload`.
-/

namespace ServiceChannel.Channel

variable {κ : Type} [Kernel κ]

/-- The agent asks for a shutdown (`handle_shutdown`): a container that is on its way down, or down,
is left alone. -/
def handleShutdown (channel : Channel κ) (container : Container) : Channel κ :=
  match container.state with
  | .shuttingDown => channel.record .alreadyShuttingDown
  | .stopped => channel.record .shutdownOfStopped
  | _ => (channel.record .shutdownRequested).stopContainer

/-- Does what a message asks of a container that is there, an arm of `handle_message` for each kind
of message. -/
def handleFor (channel : Channel κ) (container : Container) (message : AgentMessage) : Channel κ :=
  match message with
  | .bootCompleted => (channel.record .bootReported).setState .running
  | .audioSuspendCompleted | .audioResumeCompleted => channel
  | .suspendCompleted => channel.setScreenOn false
  | .resumeCompleted => channel.setScreenOn true
  | .shutdown => channel.handleShutdown container
  | .masterClear => (channel.record .wipeRequested).wipe
  | .connectivityChange connectivity =>
    -- Remembered first, so that the engine does not send the agent's own report back.
    let channel := (channel.record (.connectivityReported connectivity)).onEngine fun engine =>
      { engine with connectivity := connectivity }
    channel.setConnectivity connectivity
  | .identity update => (channel.record (.applyingIdentity update)).applyIdentity update
  | .nameRequest =>
    match channel.sendName with
    | (.ok _, channel) => channel
    | (.error error, channel) => channel.record (.nameReplyFailed error)
  | .dnsRequest =>
    match channel.sendDns with
    | (.ok _, channel) => channel
    | (.error error, channel) => channel.record (.dnsReplyFailed error)
  | .exec path params =>
    match (channel.record (.executing (path :: params))).exec (path :: params) with
    | (.ok (), channel) => channel
    | (.error error, channel) => channel.record (.execFailed error)
  | .auditAck ack => channel.acknowledgeAudit ack

/-- Does what a message asks, unless the container has gone (`handle_message`). -/
def handle (channel : Channel κ) (message : AgentMessage) : Channel κ :=
  match channel.container with
  | none => channel.record (.droppedWithoutContainer message.code)
  | some container => (channel.record (.received message.code)).handleFor container message

/-- Reads a payload and does what it asks (`handle_payload`). A message that is not understood is
passed over. -/
def handlePayload (channel : Channel κ) (payload : Bytes) : Except MessageError Unit × Channel κ :=
  match AgentMessage.decode payload with
  | .ok message => (.ok (), channel.handle message)
  | .error error =>
    if error.isUnrecognized then (.ok (), channel.record (.ignoring error))
    else (.error error, channel)

end ServiceChannel.Channel
