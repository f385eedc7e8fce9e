import ServiceChannel.Log.Event
import ServiceChannel.Text.Quoted

/-!
# Named values of events

What an event carries besides its words: named values, in the order they are written. Filters ask
for the names, logs show the values.

- `Event.fields`: the named values of an event.
- `Event.hasField`: an event has a value of a name. Its words are one, named `message`.
-/

namespace ServiceChannel

/-- A value as an event carries it. -/
inductive FieldValue where
  /-- A text that is written as it is. -/
  | plain (text : String)
  /-- A text that is written between quotes. -/
  | quoted (text : String)
  /-- The description of the container, which the event does not carry itself. -/
  | container
  /-- A length of time, which is not kept. -/
  | time
  deriving DecidableEq

namespace FieldValue

/-- A number. -/
def number (n : Nat) : FieldValue := .plain (toString n)

/-- Yes or no. -/
def flag (value : Bool) : FieldValue := .plain (if value then "true" else "false")

/-- Several texts. -/
def list (texts : List String) : FieldValue :=
  .plain ("[" ++ String.intercalate ", " (texts.map Text.describe) ++ "]")

/-- The value alone, with the description of the container. -/
def text (container : String) : FieldValue → String
  | .plain text | .quoted text => text
  | .container => container
  | .time => ""

/-- The value as a line of words shows it. -/
def shown (container : String) : FieldValue → String
  | .quoted text => Text.describe text
  | value => value.text container

end FieldValue

/-- A value and its name. -/
abbrev Field := String × FieldValue

namespace Event

/-- The field of the container's description. -/
def containerField : Field := ("container", .container)

/-- The field of an error. -/
def errorField (error : Error) : Field := ("error", .plain error.message)

/-- The field of a message code. -/
def codeField (code : AgentCode) : Field := ("code", .quoted code.name)

/-- The named values of the event, in the order they are written. -/
def fields : Event → List Field
  | .socketCreated | .interrupted | .stopRequested | .finished => []
  | .removingStaleSocket path | .socketBound path | .waitingForAgent path
  | .connectedToSocket path => [("path", .plain path)]
  | .socketListening path => [containerField, ("path", .plain path)]
  | .releasingConnection connection => [("connection", .number connection)]
  | .connected connection | .disconnected connection =>
    [containerField, ("connection", .number connection)]
  | .replacing previous => [containerField, ("previous", .number previous)]
  | .closing connection reason =>
    [containerField, ("connection", .number connection), ("reason", .plain reason.message)]
  | .discardingPartial connection pending =>
    [("connection", .number connection), ("pending", .number pending)]
  | .acceptFailed error | .execFailed error | .connectivityFailed error | .recordFailed error =>
    [containerField, errorField error]
  | .ignoring error => [("error", .plain error.message)]
  | .droppedWithoutContainer code | .messageSent code => [codeField code]
  | .received code => [containerField, codeField code]
  | .bootReported | .shutdownRequested | .alreadyShuttingDown | .shutdownOfStopped
  | .wipeRequested | .cannotSendShutdown | .wiping => [containerField]
  | .connectivityReported connectivity | .sendingConnectivity connectivity =>
    [containerField, ("connectivity", .plain connectivity.name)]
  | .applyingIdentity update =>
    [("imei", .flag update.imei.isSome), ("mac", .flag update.mac.isSome),
      ("phone_number", .flag update.phoneNumber.isSome)]
  | .nameReplyFailed error | .dnsReplyFailed error | .forcedDown error | .failed error =>
    [errorField error]
  | .executing arguments => [containerField, ("argv", .list arguments)]
  | .frameSent connection length =>
    [("connection", .number connection), ("len", .number length)]
  | .sendingCommand command => [("command", .plain command.name)]
  | .droppingCommand command => [containerField, ("command", .plain command.name)]
  | .commandFailed command error => [("command", .plain command.name), errorField error]
  | .sendingName name => [("name", .plain name), containerField]
  | .sendingDns server => [("dns", .quoted (server.getD "<none>")), containerField]
  | .connectivityInSync connectivity | .connectivityChanged connectivity =>
    [("connectivity", .plain connectivity.name)]
  | .sendingRecord length => [("len", .number length), containerField]
  | .notifyingStorage remaining =>
    [("remaining_storage", .number remaining.toNat), containerField]
  | .waitingForShutdown => [("grace", .time)]
  | .stateChanged before after => [("from", .plain before.name), ("to", .plain after.name)]
  | .screenChanged on => [("screen_on", .flag on)]
  | .imeiSet text => [("imei", .quoted text)]
  | .macSet text => [("mac", .quoted text)]
  | .phoneNumberSet text => [("phone_number", .quoted text)]
  | .auditAckReceived length => [("len", .number length)]
  | .starting version => [("version", .quoted version)]
  | .noReply => [("wait", .time)]
  | .digestUnsupported => [("algo", .plain "SHA-384")]

/-- The event has a value of this name. -/
def hasField (event : Event) (name : String) : Bool :=
  name = "message" || event.fields.any (·.1 = name)

end Event
end ServiceChannel
