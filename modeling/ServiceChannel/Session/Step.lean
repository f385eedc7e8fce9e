import ServiceChannel.Session.Settle

/-!
# Steps of a session

A session is a script: steps that are taken one after the other on a channel, its container, the
agents that connect to it and the path of its socket.

- `Step`: what can be done.
- `Outcome`: what a step gives.
- `Report`: all that can be seen after a step.
-/

namespace ServiceChannel.Session

/-- What is put at the path of the socket. -/
inductive Occupant where
  /-- A socket that nobody listens on. -/
  | stale
  | file
  | directory
  /-- Nothing: what is there is removed. -/
  | vacant
  deriving DecidableEq

/-- What can be done to a container. -/
inductive ContainerStep where
  | setState (state : Lifecycle)
  | setScreenOn (on : Bool)
  | identify (update : Identity)
  | stop
  | wipe
  | exec (arguments : List String)
  | acknowledgeAudit (ack : Bytes)
  | observe (name : String) (reaction : Reaction)
  | unobserve (name : String)
  /-- Asks for the name, the DNS server and the description. -/
  | info
  /-- The container goes away. -/
  | drop
  | setName (name : String)
  | setDns (server : Option String)
  | refuseObservers (refuse : Bool)
  | failExec (fail : Bool)
  | onStop (calls : List EngineCall)
  | start
  | takeStopRequest
  | finish
  deriving DecidableEq

/-- What can be done on an engine. -/
inductive EngineStep where
  | call (call : EngineCall)
  /-- All phases of bringing up, to the first that fails. -/
  | bringUp
  /-- Asks for a description. -/
  | describe
  /-- Sends an audit record for the audit store. -/
  | bridgeRecord (record : Bytes)
  /-- Tells of remaining storage for the audit store. -/
  | bridgeNotify (remaining : UInt64)
  /-- Tells that all records were sent for the audit store. -/
  | bridgeComplete
  deriving DecidableEq

/-- What an agent can do. -/
inductive AgentStep where
  | connect
  | send (message : AgentMessage)
  /-- Sends a payload in a frame. -/
  | sendPayload (payload : Bytes)
  /-- Sends bytes as they are. -/
  | sendBytes (bytes : Bytes)
  /-- Writes no more. -/
  | halfClose
  /-- Closes its end. -/
  | drop
  /-- Waits for a message, for a while. -/
  | receive
  deriving DecidableEq

/-- One step. -/
inductive Action where
  | container (step : ContainerStep)
  | engine (step : EngineStep)
  | agent (name : String) (step : AgentStep)
  /-- Changes what is at the path of the socket. -/
  | put (occupant : Occupant)
  /-- An agent connects, and accepting it fails. -/
  | failAccept
  /-- Nothing. -/
  | idle
  deriving DecidableEq

/-- A step and how it is taken. -/
structure Step where
  action : Action
  /-- Whatever is pending happens afterwards. -/
  settles : Bool := true
  /-- No descriptor can be opened while it is taken. -/
  exhausted : Bool := false
  deriving DecidableEq

/-- What a step gives. -/
inductive Outcome where
  | answer (answer : Answer)
  /-- The number of an observer. -/
  | observer (id : ObserverId)
  | text (text : String)
  | info (name : String) (dnsServer : Option String) (description : String)
  /-- A message that an agent received, if it received one. -/
  | message (message : Option HostMessage)
  /-- The step cannot be taken as things are. -/
  | impossible
  deriving DecidableEq

/-- What an agent got. -/
structure Inbox where
  got : List (Except Error HostMessage)
  closed : Bool

/-- All that can be seen after a step. -/
structure Report where
  outcome : Outcome
  /-- What the agents got, if they looked. -/
  inboxes : Option (List (String × Inbox))
  /-- What is at the path of the socket. -/
  path : Option EntryKind
  container : Option Container
  engine : Engine
  notes : List Note
  log : List Event

end ServiceChannel.Session
