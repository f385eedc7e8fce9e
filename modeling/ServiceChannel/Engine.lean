import ServiceChannel.Config
import ServiceChannel.Kernel
import ServiceChannel.Message.Host
import ServiceChannel.Observer

/-!
# Engines

The state of one service channel: the rendezvous socket that agents connect to, the one open
connection, and what is remembered of the last exchange about connectivity.

- `Rendezvous`: the phases of bringing the socket up.
- `Engine`: the state.
- `EngineCall`, `Answer`: the operations on an engine as data, with what they can give.
-/

namespace ServiceChannel

/-! ## State -/

/-- The rendezvous socket on its way to listening. -/
inductive Rendezvous where
  | closed
  | created (socket : Handle)
  | bound (socket : Handle)
  | listening (socket : Handle)
  deriving DecidableEq

namespace Rendezvous

/-- The name of the phase. -/
def phase : Rendezvous → String
  | .closed => "closed"
  | .created _ => "created"
  | .bound _ => "bound"
  | .listening _ => "listening"

/-- The socket that is held. -/
def socket? : Rendezvous → Option Handle
  | .closed => none
  | .created socket | .bound socket | .listening socket => some socket

/-- Agents can connect. -/
def isListening : Rendezvous → Bool
  | .listening _ => true
  | _ => false

end Rendezvous

/-- An accepted connection. -/
structure Connection where
  id : Nat
  socket : Handle
  deriving DecidableEq

/-- The reading end of a connection, with the bytes of a frame that is not complete yet. -/
structure Reader where
  connection : Nat
  socket : Handle
  buffered : Bytes := []
  deriving DecidableEq

/-- The state of one service channel. -/
structure Engine where
  config : Config
  rendezvous : Rendezvous := .closed
  /-- The open connection. -/
  connection : Option Connection := none
  /-- The readers that are at work. -/
  readers : List Reader := []
  /-- The connectivity last exchanged with an agent, in either direction. -/
  connectivity : Connectivity := .offline
  /-- The number under which the engine observes its container. -/
  subscription : Option ObserverId := none
  /-- How many connections were accepted. -/
  accepted : Nat := 0
  /-- The engine was given up by its owner and takes part in nothing. -/
  released : Bool := false
  deriving DecidableEq

namespace Engine

/-- The connection is the open one. -/
def isCurrent (engine : Engine) (id : Nat) : Bool := engine.connection.any (·.id = id)

/-- Agents can connect. -/
def isListening (engine : Engine) : Bool := engine.rendezvous.isListening

/-- An agent is connected. -/
def isConnected (engine : Engine) : Bool := engine.connection.isSome

/-- The reader of a connection, if it is still at work. -/
def reader? (engine : Engine) (id : Nat) : Option Reader :=
  engine.readers.find? (·.connection = id)

/-- Leaves the given bytes in the buffer of a reader; a reader that has gone stays gone. -/
def setBuffered (engine : Engine) (id : Nat) (bytes : Bytes) : Engine :=
  { engine with
    readers := engine.readers.map fun reader =>
      if reader.connection = id then { reader with buffered := bytes } else reader }

end Engine

/-! ## Operations as data -/

/-- How a message that could be sent fared. -/
inductive Delivery where
  /-- Its frame was written. -/
  | sent
  /-- There is no agent yet, and it was dropped. -/
  | deferred
  /-- It is a message that is never sent. -/
  | skipped
  deriving DecidableEq

/-- What an operation gives. -/
inductive Answer where
  | done
  | delivery (delivery : Delivery)
  | flag (value : Bool)
  | failed (error : Error)
  deriving DecidableEq

namespace Answer

/-- The answer of an operation that gives nothing. -/
def ofUnit : Except Error Unit → Answer
  | .ok () => .done
  | .error error => .failed error

/-- The answer of a sending operation. -/
def ofDelivery : Except Error Delivery → Answer
  | .ok outcome => .delivery outcome
  | .error error => .failed error

/-- The answer of a sending operation whose delivery does not matter. -/
def ofSent : Except Error Delivery → Answer
  | .ok _ => .done
  | .error error => .failed error

/-- The answer of an operation that gives yes or no. -/
def ofFlag : Except Error Bool → Answer
  | .ok answer => .flag answer
  | .error error => .failed error

end Answer

/-- An operation on an engine or its container, as it can be asked for from inside another one. -/
inductive EngineCall where
  /-- Makes the rendezvous socket (`start_pre_clone`). -/
  | create
  /-- Binds the rendezvous socket (`start_child`). -/
  | bind
  /-- Puts the rendezvous socket to listening (`start_pre_exec`). -/
  | listen
  /-- Lets go of everything. -/
  | cleanup
  /-- Drops the engine. -/
  | release
  | command (command : Command)
  | sendName
  | sendDns
  | sendConnectivity (connectivity : Connectivity)
  | sendRecord (record : Bytes)
  | notifyStorage (remaining : UInt64)
  | reconcile
  /-- Sets the connectivity of the container. -/
  | setConnectivity (connectivity : Connectivity)
  deriving DecidableEq

end ServiceChannel
