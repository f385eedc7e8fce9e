import ServiceChannel.Container
import ServiceChannel.Log.Event

/-!
# Channels

An engine, the container it serves and the kernel they work on, as one state, together with what
they leave behind: log events and notes of bystanders. Operations are functions on this state.

- `Channel.disconnect`: takes the open connection out, with its reader.
- `Channel.closeRendezvous`: takes the rendezvous socket out.

A socket that is let go of is not closed on the spot but retired, and closed when the scheduler
comes to it (`Channel.closeRetired`).
-/

namespace ServiceChannel

/-- What a bystander notes. -/
inductive Note where
  /-- A watcher was told of this connectivity. -/
  | notified (watcher : String) (connectivity : Connectivity)
  /-- A stop ran this call, with this answer. -/
  | stopHook (call : EngineCall) (answer : Answer)
  deriving DecidableEq

/-- A service channel at work. -/
structure Channel (κ : Type) where
  kernel : κ
  engine : Engine
  /-- The container, until it goes away. -/
  container : Option Container
  /-- Sockets that were let go of and wait to be closed. -/
  retired : List Handle := []
  /-- The numbers that watchers registered under their names. -/
  watchers : List (String × ObserverId) := []
  log : Array Event := #[]
  notes : Array Note := #[]

namespace Channel

variable {κ : Type}

/-! ## Parts of the state -/

/-- Adds an event to the log. -/
def record (channel : Channel κ) (event : Event) : Channel κ :=
  { channel with log := channel.log.push event }

/-- Adds an event to the log of a standalone container; a recording one keeps none. -/
def recordStandalone (channel : Channel κ) (event : Event) : Channel κ :=
  if channel.container.any Container.isStandalone then channel.record event else channel

/-- Adds a note. -/
def note (channel : Channel κ) (note : Note) : Channel κ :=
  { channel with notes := channel.notes.push note }

/-- Changes the engine. -/
def onEngine (channel : Channel κ) (change : Engine → Engine) : Channel κ :=
  { channel with engine := change channel.engine }

/-- Changes the container, if it is there. -/
def onContainer (channel : Channel κ) (change : Container → Container) : Channel κ :=
  { channel with container := channel.container.map change }

/-- Lets go of a socket. -/
def retire (channel : Channel κ) (socket : Handle) : Channel κ :=
  { channel with retired := channel.retired ++ [socket] }

/-- Closes the sockets that were let go of. -/
def closeRetired [Kernel κ] (channel : Channel κ) : Channel κ :=
  { channel with kernel := channel.retired.foldl Kernel.close channel.kernel, retired := [] }

/-! ## Letting go -/

/-- Takes a connection out: the slot is empty, its reader stops, its socket is let go of. -/
def disconnect (channel : Channel κ) (connection : Connection) : Channel κ :=
  (channel.onEngine fun engine =>
    { engine with
      connection := none
      readers := engine.readers.filter (·.connection ≠ connection.id) }).retire connection.socket

/-- Closes the rendezvous, and lets go of the socket it held (`close_rendezvous`). -/
def closeRendezvous (channel : Channel κ) : Channel κ :=
  let closed := channel.onEngine fun engine => { engine with rendezvous := .closed }
  match channel.engine.rendezvous.socket? with
  | some socket => closed.retire socket
  | none => closed

/-- Ends the connection `id` for a reason, if it is still the open one (`close_connection`). -/
def close (channel : Channel κ) (id : Nat) (reason : Teardown) : Channel κ :=
  match channel.engine.connection with
  | none => channel
  | some connection =>
    if connection.id = id then
      let event := match reason with
        | .peerClosed => .disconnected id
        | reason => .closing id reason
      (channel.record event).disconnect connection
    else channel

end Channel
end ServiceChannel
