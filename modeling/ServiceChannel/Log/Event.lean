import ServiceChannel.Connectivity
import ServiceChannel.Error
import ServiceChannel.Identity
import ServiceChannel.Lifecycle
import ServiceChannel.Message.Host

/-!
# Log events

Everything the channel and the program record about themselves, one constructor for each kind of
event, with what the event is about.

- `Event.level`, `Event.target`, `Event.message`: weight, origin and words of an event.
-/

namespace ServiceChannel

/-- The weight of an event, the lightest first. -/
inductive Level where
  | trace
  | debug
  | info
  | warn
  | error
  deriving DecidableEq

namespace Level

/-- The name in a log. -/
def name : Level → String
  | .trace => "TRACE"
  | .debug => "DEBUG"
  | .info => "INFO"
  | .warn => "WARN"
  | .error => "ERROR"

/-- The place in the order of weights. -/
def rank : Level → Nat
  | .trace => 0
  | .debug => 1
  | .info => 2
  | .warn => 3
  | .error => 4

end Level

/-- Something that happened. -/
inductive Event where
  -- Bringing up and taking down
  | socketCreated
  | removingStaleSocket (path : String)
  | socketBound (path : String)
  | socketListening (path : String)
  | releasingConnection (connection : Nat)
  -- Connections
  | connected (connection : Nat)
  | replacing (previous : Nat)
  | disconnected (connection : Nat)
  | closing (connection : Nat) (reason : Teardown)
  | discardingPartial (connection pending : Nat)
  | acceptFailed (error : Error)
  -- Messages from the agent
  | ignoring (error : MessageError)
  | droppedWithoutContainer (code : AgentCode)
  | received (code : AgentCode)
  | bootReported
  | shutdownRequested
  | alreadyShuttingDown
  | shutdownOfStopped
  | wipeRequested
  | connectivityReported (connectivity : Connectivity)
  | applyingIdentity (update : Identity)
  | nameReplyFailed (error : Error)
  | dnsReplyFailed (error : Error)
  | executing (arguments : List String)
  | execFailed (error : Error)
  -- Messages to the agent
  | frameSent (connection length : Nat)
  | sendingCommand (command : Command)
  | cannotSendShutdown
  | droppingCommand (command : Command)
  | commandFailed (command : Command) (error : Error)
  | sendingName (name : String)
  | sendingDns (server : Option String)
  | sendingConnectivity (connectivity : Connectivity)
  | connectivityInSync (connectivity : Connectivity)
  | connectivityFailed (error : Error)
  | sendingRecord (length : Nat)
  | recordFailed (error : Error)
  | notifyingStorage (remaining : UInt64)
  -- The standalone container
  | waitingForAgent (path : String)
  | waitingForShutdown
  | stateChanged (before after : Lifecycle)
  | screenChanged (on : Bool)
  | connectivityChanged (connectivity : Connectivity)
  | imeiSet (text : String)
  | macSet (text : String)
  | phoneNumberSet (text : String)
  | forcedDown (error : Error)
  | wiping
  | auditAckReceived (length : Nat)
  -- The program
  | starting (version : String)
  | interrupted
  | stopRequested
  | finished
  | connectedToSocket (path : String)
  | messageSent (code : AgentCode)
  | noReply
  | failed (error : Error)
  -- Digests
  | digestUnsupported
  deriving DecidableEq

namespace Event

/-- The weight of the event. -/
def level : Event → Level
  | .socketCreated | .removingStaleSocket _ | .socketBound _ | .releasingConnection _
  | .discardingPartial _ _ | .received _ | .applyingIdentity _ | .sendingCommand _
  | .droppingCommand _ | .waitingForShutdown | .auditAckReceived _ => .debug
  | .frameSent _ _ | .connectivityInSync _ | .sendingRecord _ | .notifyingStorage _ => .trace
  | .replacing _ | .closing _ _ | .acceptFailed _ | .ignoring _ | .droppedWithoutContainer _
  | .nameReplyFailed _ | .dnsReplyFailed _ | .execFailed _ | .cannotSendShutdown
  | .commandFailed _ _ | .connectivityFailed _ | .forcedDown _ | .noReply => .warn
  | .shutdownOfStopped | .recordFailed _ | .failed _ | .digestUnsupported => .error
  | .socketListening _ | .connected _ | .disconnected _ | .bootReported | .shutdownRequested
  | .alreadyShuttingDown | .wipeRequested | .connectivityReported _ | .executing _
  | .sendingName _ | .sendingDns _ | .sendingConnectivity _ | .waitingForAgent _
  | .stateChanged _ _ | .screenChanged _ | .connectivityChanged _ | .imeiSet _ | .macSet _
  | .phoneNumberSet _ | .wiping | .starting _ | .interrupted | .stopRequested | .finished
  | .connectedToSocket _ | .messageSent _ => .info

/-- The part of the program that the event comes from. -/
def target : Event → String
  | .socketCreated | .socketListening _ | .releasingConnection _ | .connected _ | .replacing _
  | .disconnected _ | .closing _ _ | .discardingPartial _ _ | .acceptFailed _ =>
    "cmld_service::engine"
  | .removingStaleSocket _ | .socketBound _ => "cmld_service::socket"
  | .ignoring _ | .droppedWithoutContainer _ | .received _ | .bootReported | .shutdownRequested
  | .alreadyShuttingDown | .shutdownOfStopped | .wipeRequested | .connectivityReported _
  | .applyingIdentity _ | .nameReplyFailed _ | .dnsReplyFailed _ | .executing _ | .execFailed _ =>
    "cmld_service::dispatch"
  | .frameSent _ _ | .sendingCommand _ | .cannotSendShutdown | .droppingCommand _
  | .commandFailed _ _ | .sendingName _ | .sendingDns _ | .sendingConnectivity _ =>
    "cmld_service::sender"
  | .connectivityInSync _ | .connectivityFailed _ => "cmld_service::connectivity"
  | .sendingRecord _ | .recordFailed _ | .notifyingStorage _ => "cmld_service::audit"
  | .waitingForAgent _ | .waitingForShutdown | .stateChanged _ _ | .screenChanged _
  | .connectivityChanged _ | .imeiSet _ | .macSet _ | .phoneNumberSet _ | .forcedDown _ | .wiping
  | .auditAckReceived _ => "cmld_service::standalone"
  | .starting _ | .interrupted | .stopRequested | .finished | .connectedToSocket _ | .messageSent _
  | .noReply | .failed _ => "cml_service"
  | .digestUnsupported => "rattestation::hash"

/-- The event in words. -/
def message : Event → String
  | .socketCreated => "Service socket created"
  | .removingStaleSocket _ => "Removing stale socket"
  | .socketBound _ => "Service socket bound"
  | .socketListening _ => "Service socket listening"
  | .releasingConnection _ => "Releasing companion agent connection"
  | .connected _ => "Companion agent connected"
  | .replacing _ => "Companion agent reconnected while a connection was open; replacing it"
  | .disconnected _ => "Companion agent disconnected"
  | .closing _ _ => "Closing companion agent connection"
  | .discardingPartial _ _ => "Discarding partial frame"
  | .acceptFailed _ => "Exception on service socket; closing it, the agent cannot reconnect"
  | .ignoring _ => "Ignoring unrecognized message from companion agent"
  | .droppedWithoutContainer _ => "Container is gone; dropping agent message"
  | .received _ => "Received message from companion agent"
  | .bootReported => "Container boot completed"
  | .shutdownRequested => "Companion agent requested shutdown"
  | .alreadyShuttingDown => "Container is already shutting down"
  | .shutdownOfStopped => "Companion agent requested shutdown of a stopped container"
  | .wipeRequested => "Companion agent requested wipe"
  | .connectivityReported _ => "Companion agent reported connectivity"
  | .applyingIdentity _ => "Applying identity update"
  | .nameReplyFailed _ => "Failed to reply with container name"
  | .dnsReplyFailed _ => "Failed to reply with container DNS server"
  | .executing _ => "Executing with time capability"
  | .execFailed _ => "Privileged exec failed"
  | .frameSent _ _ => "Frame sent"
  | .sendingCommand _ => "Sending command to companion agent"
  | .cannotSendShutdown => "Cannot send shutdown, companion agent is not connected"
  | .droppingCommand _ => "Companion agent not connected yet; dropping command"
  | .commandFailed _ _ => "Failed to send command to companion agent"
  | .sendingName _ => "Sending container config name"
  | .sendingDns _ => "Sending container config DNS server"
  | .sendingConnectivity _ => "Sending connectivity to companion agent"
  | .connectivityInSync _ => "Connectivity already in sync"
  | .connectivityFailed _ => "Failed to send connectivity to companion agent"
  | .sendingRecord _ => "Sending packed audit record"
  | .recordFailed _ => "Failed to send packed audit record"
  | .notifyingStorage _ => "Notifying about stored audit events"
  | .waitingForAgent _ => "Waiting for companion agent"
  | .waitingForShutdown => "Waiting for companion agent to shut down"
  | .stateChanged _ _ => "Container state changed"
  | .screenChanged _ => "Screen state changed"
  | .connectivityChanged _ => "Connectivity changed"
  | .imeiSet _ => "IMEI set"
  | .macSet _ => "MAC address set"
  | .phoneNumberSet _ => "Phone number set"
  | .forcedDown _ => "Graceful shutdown not possible; forcing container down"
  | .wiping => "Wiping container data"
  | .auditAckReceived _ => "Audit ack received"
  | .starting _ => "cml-service starting"
  | .interrupted => "Interrupted, stopping container"
  | .stopRequested => "Container stop requested"
  | .finished => "cml-service stopped"
  | .connectedToSocket _ => "Connected to service socket"
  | .messageSent _ => "Message sent"
  | .noReply => "No reply received"
  | .failed _ => "cml-service failed"
  | .digestUnsupported => "Hash algo not supported"

end Event
end ServiceChannel
