import ServiceChannel.Channel.Basic
import ServiceChannel.Frame

/-!
# Sending

Messages from the host to its agent. A plain command without an agent is dropped, except a
shutdown, which fails so that the container can be forced down; whatever carries a payload fails
without an agent. A write that fails leaves the connection open.

- `Channel.sendPayload`: one payload in its frame, `send_payload`; every message goes through it.
- `Channel.sendCommand`, `Channel.sendName`, `Channel.sendDns`, `Channel.sendConnectivity`,
  `Channel.sendRecord`, `Channel.notifyStorage`: the messages.
-/

namespace ServiceChannel.Channel

variable {κ : Type} [Kernel κ]

/-- Writes a payload in its frame to the agent (`send_payload`). -/
def sendPayload (channel : Channel κ) (payload : Bytes) : Except Error Delivery × Channel κ :=
  match Frame.encode channel.engine.config.maxMessageSize payload with
  | .error error => (.error (.send error.message), channel)
  | .ok frame =>
    match channel.engine.connection with
    | none => (.error .notConnected, channel)
    | some connection =>
      match sendAll channel.kernel connection.socket frame with
      | (.error error, kernel) => (.error (.send error.message), { channel with kernel := kernel })
      | (.ok (), kernel) =>
        (.ok .sent,
          { channel with kernel := kernel }.record (.frameSent connection.id frame.length))

/-- A payload beyond the bound is refused, connected or not. -/
theorem sendPayload_of_oversized {channel : Channel κ} {payload : Bytes}
    (large : channel.engine.config.maxMessageSize < payload.length) :
    channel.sendPayload payload =
      (.error (.send (MessageError.tooLarge payload.length
        channel.engine.config.maxMessageSize).message), channel) := by
  rw [sendPayload, Frame.encode_of_oversized large]

/-- A payload within the bound has nobody to go to without an agent. -/
theorem sendPayload_of_unconnected {channel : Channel κ} {payload : Bytes}
    (fits : payload.length ≤ channel.engine.config.maxMessageSize)
    (unconnected : channel.engine.connection = none) :
    channel.sendPayload payload = (.error .notConnected, channel) := by
  rw [sendPayload, Frame.encode_of_fits fits, unconnected]

/-- A payload within the bound goes to the agent in its frame. -/
theorem sendPayload_of_connected {channel : Channel κ} {connection : Connection} {payload : Bytes}
    (fits : payload.length ≤ channel.engine.config.maxMessageSize)
    (current : channel.engine.connection = some connection) :
    channel.sendPayload payload =
      match sendAll channel.kernel connection.socket (Frame.frame payload) with
      | (.error error, kernel) => (.error (.send error.message), { channel with kernel := kernel })
      | (.ok (), kernel) =>
        (.ok .sent, { channel with kernel := kernel }.record
          (.frameSent connection.id (Frame.frame payload).length)) := by
  rw [sendPayload, Frame.encode_of_fits fits, current]

/-- Writes a message to the agent (`send_message`). -/
def sendMessage (channel : Channel κ) (message : HostMessage) : Except Error Delivery × Channel κ :=
  channel.sendPayload message.encode

/-- Sends a plain command (`send_command`). -/
def sendCommand (channel : Channel κ) (command : Command) : Except Error Delivery × Channel κ :=
  let channel := channel.record (.sendingCommand command)
  match channel.engine.connection with
  | none =>
    if command = .shutdown then (.error .notConnected, channel.record .cannotSendShutdown)
    else (.ok .deferred, channel.record (.droppingCommand command))
  | some _ =>
    match command.message? with
    | none => (.ok .skipped, channel)
    | some message =>
      match channel.sendMessage message with
      | (.ok delivery, channel) => (.ok delivery, channel)
      | (.error error, channel) => (.error error, channel.record (.commandFailed command error))

/-- Sends the container's name (`send_container_cfg_name`). -/
def sendName (channel : Channel κ) : Except Error Delivery × Channel κ :=
  match channel.container with
  | none => (.error .containerGone, channel)
  | some container =>
    (channel.record (.sendingName container.name)).sendMessage (.containerName container.name)

/-- Sends the container's DNS server, or that it has none (`send_container_cfg_dns`). -/
def sendDns (channel : Channel κ) : Except Error Delivery × Channel κ :=
  match channel.container with
  | none => (.error .containerGone, channel)
  | some container =>
    (channel.record (.sendingDns container.dnsServer)).sendMessage
      (.containerDns container.dnsServer)

/-- Sends a connectivity, and remembers it once it was sent (`send_connectivity`). -/
def sendConnectivity (channel : Channel κ) (connectivity : Connectivity) :
    Except Error Delivery × Channel κ :=
  match (channel.record (.sendingConnectivity connectivity)).sendMessage
      (.connectivityChange connectivity) with
  | (.error error, channel) => (.error error, channel)
  | (.ok delivery, channel) =>
    (.ok delivery, channel.onEngine fun engine => { engine with connectivity := connectivity })

/-! ## Audit -/

/-- Sends an audit record that is a payload already (`audit_send_record`). -/
def sendRecord (channel : Channel κ) (payload : Bytes) : Except Error Delivery × Channel κ :=
  match (channel.record (.sendingRecord payload.length)).sendPayload payload with
  | (.ok delivery, channel) => (.ok delivery, channel)
  | (.error error, channel) => (.error error, channel.record (.recordFailed error))

/-- Tells the agent how much audit storage is left (`audit_notify`). -/
def notifyStorage (channel : Channel κ) (remaining : UInt64) :
    Except Error Delivery × Channel κ :=
  (channel.record (.notifyingStorage remaining)).sendMessage (.auditNotify remaining)

end ServiceChannel.Channel
