import ServiceChannel.Session.World

/-!
# Settling

Letting everything happen that is pending between a channel and its network. The host works in
turns. In a turn it closes the sockets that it let go of, and then goes through those it was woken
at: it accepts the connections that wait at the rendezvous, and reads all that arrived at a
connection. After the turn it is told where something happened meanwhile, and so are the agents.

- `World.turn`: one turn, and whether anybody was told of anything.
- `World.settle`: turns until nobody is.
- `World.finish`: finishes a standalone container.
-/

namespace ServiceChannel.Session.World

/-! ## Accepting -/

/-- Accepts up to so many waiting connections. -/
def acceptUpTo : (count : Nat) → World → (listener : Handle) → World
  | 0, world, _ => world
  | count + 1, world, listener =>
    match world.network.accept listener with
    | some (socket, network) =>
      acceptUpTo count ((world.withNetwork network).onHost (·.accept socket)) listener
    | none => world

/-- Accepts all connections that wait at the rendezvous; without a descriptor that fails. -/
def acceptAll (world : World) (listener : Handle) : World :=
  if world.network.exhausted then world.onHost (·.acceptFailed (.os .tooManyFiles))
  else match world.network.socket listener with
    | .listening waiting _ => world.acceptUpTo waiting.length listener
    | _ => world

/-! ## Reading -/

/-- The room that a reader of the host makes before each read. -/
def readRoom : Nat := 8192

/-- Reads up to so many times on a connection, as long as something arrives there. -/
def readUpTo : (count : Nat) → World → (socket : Handle) → World
  | 0, world, _ => world
  | count + 1, world, socket =>
    match world.reader? socket with
    | none => world
    | some reader =>
      let kept := reader.buffered.length
      let window := (world.window socket).reserve kept readRoom
      let (outcome, network) := world.network.read socket (window.room kept)
      let world := (world.withNetwork network).onHost (·.receive reader.connection outcome)
      match outcome with
      | .data bytes =>
        readUpTo count (world.setWindow socket
          (window.drain world.host.engine.config.maxMessageSize (reader.buffered ++ bytes)))
          socket
      | _ => world.setWindow socket window

/-- Reads all that arrived on a connection, and its end. Every read but the last brings a byte at
least. -/
def readAll (world : World) (socket : Handle) : World :=
  match world.network.stream? socket with
  | some stream => world.readUpTo (stream.inbox.length + 1) socket
  | none => world

/-! ## Turns -/

/-- Does what there is to do at a socket, and closes what was let go of. -/
def attendTo (world : World) (socket : Handle) : World :=
  (if world.listensAt socket then world.acceptAll socket else world.readAll socket).onHost
    (·.closeRetired)

/-- The host's part of a turn. -/
def work (world : World) : World :=
  world.woken.foldl attendTo { world.onHost (·.closeRetired) with woken := [] }

/-- Tells the agents at a socket that something can be read there. -/
def tellAgents (world : World) (socket : Handle) (stream : Stream) : World :=
  { world with
    agents := world.agents.map fun (name, agent) =>
      (name, if agent.socket = socket then
        { agent with readable := true, ending := agent.ending || stream.reset || stream.ended }
      else agent) }

/-- Tells whom it concerns that something happened at a socket, and says whether it concerns
anybody. -/
def tell (world : World) (socket : Handle) : Bool × World :=
  match world.network.socket socket with
  | .listening waiting _ =>
    if world.listensAt socket && !waiting.isEmpty then
      (true, { world with woken := world.woken ++ [socket] })
    else (false, world)
  | .stream stream =>
    if !stream.isReadable then (false, world)
    else if (world.reader? socket).isSome then
      (true, { world with woken := world.woken ++ [socket] })
    else (world.agents.any (·.2.socket = socket), world.tellAgents socket stream)
  | _ => (false, world)

/-- Tells of all that happened, and says whether it concerns anybody. -/
def tellAll (world : World) : Bool × World :=
  let (news, network) := world.network.takeNews
  news.foldl
    (fun (concerned, world) socket =>
      let (concerns, world) := world.tell socket
      (concerned || concerns, world))
    (false, world.withNetwork network)

/-- One turn, and whether anybody was told of anything after it. -/
def turn (world : World) : Bool × World := world.work.tellAll

/-- Up to so many turns, until nobody is told of anything. -/
def turns : (count : Nat) → World → World
  | 0, world => world
  | count + 1, world =>
    match world.turn with
    | (true, world) => turns count world
    | (false, world) => world

/-- The most turns that can come before nothing is pending: all but the last accept connections,
read, or tell an agent, and nobody writes anew meanwhile. -/
def patience (world : World) : Nat := 4 * world.network.sockets.size + 4

/-- Lets everything happen that is pending. -/
def settle (world : World) : World := turns world.patience world

/-- Finishes a standalone container. While the host waits for its agent, what is pending happens. -/
def finish (world : World) : World :=
  let world := world.onHost (·.beginFinish)
  (if world.host.awaitsShutdown then world.settle else world).onHost (·.endFinish)

end ServiceChannel.Session.World
