import ServiceChannel.Channel.Standalone
import ServiceChannel.Client
import ServiceChannel.Network
import ServiceChannel.Session.Window

/-!
# Worlds

A channel in a network, with the agents that are connected and what the two sides know of their
sockets so far.

- `Session.Agent`: a connected agent.
- `Session.World`: the state.
-/

namespace ServiceChannel.Session

/-- A channel in a network. -/
abbrev Host := Channel Network

/-- A connected agent. -/
structure Agent where
  socket : Handle
  client : Client := {}
  window : Window := {}
  /-- It was told that something can be read. -/
  readable : Bool := false
  /-- It was told that the stream comes to its end. -/
  ending : Bool := false
  deriving DecidableEq

/-- A channel and the agents that are connected. -/
structure World where
  host : Host
  agents : List (String × Agent) := []
  /-- The path of the socket. -/
  path : String
  /-- The sockets of the host that were found to have something to do, in that order. -/
  woken : List Handle := []
  /-- The windows of the host's readers that are not as they were at first, by their sockets. -/
  windows : List (Handle × Window) := []

namespace World

/-- Changes the host. -/
def onHost (world : World) (change : Host → Host) : World :=
  { world with host := change world.host }

/-- Replaces the host. -/
def withHost (world : World) (host : Host) : World := { world with host := host }

/-- The network. -/
def network (world : World) : Network := world.host.kernel

/-- Replaces the network. -/
def withNetwork (world : World) (network : Network) : World :=
  { world with host := { world.host with kernel := network } }

/-- Changes the network. -/
def onNetwork (world : World) (change : Network → Network) : World :=
  world.withNetwork (change world.network)

/-! ## Agents -/

/-- The agent of a name. -/
def agent? (world : World) (name : String) : Option Agent := world.agents.lookup name

/-- Puts an agent under a name. -/
def setAgent (world : World) (name : String) (agent : Agent) : World :=
  { world with agents := (name, agent) :: world.agents.filter (·.1 ≠ name) }

/-- Closes the end of the agent of a name, and forgets it. -/
def dropAgent (world : World) (name : String) : World :=
  match world.agent? name with
  | some agent =>
    { world.onNetwork (·.closeSocket agent.socket) with
      agents := world.agents.filter (·.1 ≠ name) }
  | none => world

/-! ## Readers -/

/-- The window of the reader at a socket. -/
def window (world : World) (socket : Handle) : Window := (world.windows.lookup socket).getD {}

/-- Changes the window of the reader at a socket. -/
def setWindow (world : World) (socket : Handle) (window : Window) : World :=
  { world with windows := (socket, window) :: world.windows.filter (·.1 ≠ socket) }

/-- The reader at a socket. -/
def reader? (world : World) (socket : Handle) : Option Reader :=
  world.host.engine.readers.find? (·.socket = socket)

/-- The socket listens for the host. -/
def listensAt (world : World) (socket : Handle) : Bool :=
  match world.host.engine.rendezvous with
  | .listening listener => listener = socket
  | _ => false

end World
end ServiceChannel.Session
