import ServiceChannel.Session.Settle
import ServiceChannel.Session.Step

/-!
# Agents of a session

What the agents do: they connect, write, and read what has arrived for them.

- `World.connect`: a new agent takes a name, and the old one of that name goes.
- `World.write`: an agent writes, and waits for room.
- `World.receive`: an agent waits for a message.
- `World.lookAll`: every agent reads all that has arrived.
-/

namespace ServiceChannel.Session.World

/-! ## Connecting -/

/-- Why a path is no address to connect to. -/
def addressError? (path : String) : Option SystemError :=
  if hasZero path then some .zeroInAddress
  else if addressCapacity ≤ path.utf8ByteSize then some .addressTooLong
  else none

/-- Connects to a path, and gives the near end. -/
def dial (world : World) (path : String) : Except SystemError (Handle × World) :=
  match addressError? path with
  | some error => .error error
  | none =>
    match world.network.connect path with
    | .error error => .error error
    | .ok (socket, network) => .ok (socket, world.withNetwork network)

/-- The agent at a new socket. -/
def newAgent (world : World) (socket : Handle) : Agent :=
  match world.network.stream? socket with
  | some stream =>
    { socket := socket
      readable := stream.isReadable
      ending := stream.reset || stream.ended }
  | none => { socket := socket }

/-- The connection at a socket was reset before anything was read. -/
def isReset (world : World) (socket : Handle) : Bool :=
  (world.network.stream? socket).any (·.reset)

/-- A new agent connects under a name. A turn goes by while it does: if the rendezvous closes in it,
the connection fails; otherwise the old agent of that name goes. -/
def connect (world : World) (name : String) : Except Error Unit × World :=
  match world.dial world.path with
  | .error error => (.error (.io error), world)
  | .ok (socket, world) =>
    let (_, world) := world.turn
    if world.isReset socket then
      (.error (.io (.os .connectionReset)), world.onNetwork (·.closeSocket socket))
    else
      let world := world.dropAgent name
      (.ok (), world.setAgent name (world.newAgent socket))

/-! ## Writing -/

/-- Writes bytes at a socket, in up to so many parts. Where there is no room a turn goes by. -/
def writeUpTo : (count : Nat) → World → (socket : Handle) → (bytes : Bytes) →
    Except SystemError Unit × World
  | 0, world, _, _ => (.ok (), world)
  | count + 1, world, socket, bytes =>
    if bytes.isEmpty then (.ok (), world)
    else match world.network.writeSome socket bytes with
      | (.wrote written, network) =>
        writeUpTo count (world.withNetwork network) socket (bytes.drop written)
      | (.failed (.os .wouldBlock), _) => writeUpTo count world.turn.2 socket bytes
      | (.failed error, _) => (.error error, world)
      | (.interrupted, _) => writeUpTo count world socket bytes

/-- The most parts that bytes are written in: each is as large as there can be room for, and a few
turns go by before that is free again. -/
def writePatience (bytes : Bytes) : Nat := 8 * (bytes.length / Parcel.bound + 2)

/-- Writes bytes from an agent. -/
def write (world : World) (agent : Agent) (bytes : Bytes) : Except Error Unit × World :=
  let (result, world) := writeUpTo (writePatience bytes) world agent.socket bytes
  (result.mapError .io, world)

/-- Writes a payload in its frame from an agent. -/
def writePayload (world : World) (agent : Agent) (payload : Bytes) : Except Error Unit × World :=
  match Client.frame payload with
  | .error error => (.error error, world)
  | .ok frame => world.write agent frame

/-! ## Receiving -/

/-- The room that an agent makes when it has none left. -/
def agentRoom : Nat := 64

/-- The window of an agent before it reads. -/
def readyWindow (agent : Agent) : Window :=
  let kept := agent.client.buffered.length
  if agent.window.room kept = 0 then agent.window.reserve kept agentRoom else agent.window

/-- The agent's next message, given what it reads. -/
def hand (agent : Agent) (reads : List ReadOutcome) : Option Client.Result × Agent :=
  let arrived := reads.map fun
    | .data bytes => bytes.length
    | _ => 0
  let kept := agent.client.buffered.length + arrived.foldl (· + ·) 0
  let (result, client, _) := agent.client.receive reads
  (result, { agent with
    client := client
    window := agent.window.leave kept client.buffered.length })

/-- The agent reads up to so many times, until a message is complete. A read that does not fill the
window was the last until the agent is told anew, but an end that it was told of stays. -/
def receiveUpTo : (count : Nat) → World → Agent → Option Client.Result × Agent × World
  | 0, world, agent => (none, agent, world)
  | count + 1, world, agent =>
    if agent.readable || agent.ending then
      let window := readyWindow agent
      let room := window.room agent.client.buffered.length
      let (outcome, network) := world.network.read agent.socket room
      let world := world.withNetwork network
      let readable := match outcome with
        | .data bytes => bytes.length = room
        | .wouldBlock => false
        | _ => agent.readable
      match hand { agent with window := window, readable := readable } [outcome] with
      | (some result, agent) => (some result, agent, world)
      | (none, agent) =>
        if outcome = .wouldBlock then (none, agent, world) else receiveUpTo count world agent
    else (none, agent, world)

/-- The agent's next message, if it is complete or can be read now. -/
def receiveNow (world : World) (name : String) : Option Client.Result × World :=
  match world.agent? name with
  | none => (none, world)
  | some agent =>
    match hand agent [] with
    | (some result, agent) => (some result, world.setAgent name agent)
    | (none, agent) =>
      let arrived := (world.network.stream? agent.socket).map (·.inbox.length) |>.getD 0
      let (result, agent, world) := receiveUpTo (arrived + 2) world agent
      (result, world.setAgent name agent)

/-- An agent waits for a message for up to so many turns, or until nobody is told of anything. -/
def receiveWithin : (count : Nat) → World → (name : String) → Option Client.Result × World
  | 0, world, name => world.receiveNow name
  | count + 1, world, name =>
    match world.receiveNow name with
    | (some result, world) => (some result, world)
    | (none, world) =>
      match world.turn with
      | (true, world) => receiveWithin count world name
      | (false, world) => (none, world)

/-- An agent waits for a message. Turns go by only while it is not complete. -/
def receive (world : World) (name : String) : Option Client.Result × World :=
  receiveWithin world.patience world name

/-! ## Looking -/

/-- An agent reads up to so many messages, after those in `got`, the newest first. -/
def lookUpTo : (count : Nat) → World → (name : String) → (got : List Client.Result) →
    Inbox × World
  | 0, world, _, got => (⟨got.reverse, false⟩, world)
  | count + 1, world, name, got =>
    match world.receiveNow name with
    | (none, world) => (⟨got.reverse, false⟩, world)
    | (some (.error .peerClosed), world) | (some (.error (.io _)), world) =>
      (⟨got.reverse, true⟩, world)
    | (some result, world) =>
      if (world.agent? name).any (·.client.isStuck result) then
        (⟨(result :: got).reverse, false⟩, world)
      else lookUpTo count world name (result :: got)

/-- An agent reads all that has arrived; one whose connection ended is forgotten. -/
def look (world : World) (name : String) : Inbox × World :=
  match world.agent? name with
  | none => (⟨[], false⟩, world)
  | some agent =>
    let arrived := (world.network.stream? agent.socket).map (·.inbox.length) |>.getD 0
    let (inbox, world) := lookUpTo (agent.client.buffered.length + arrived + 1) world name []
    (inbox, if inbox.closed then world.dropAgent name else world)

/-- Every agent reads; those that got something or were closed are told of. -/
def lookAll (world : World) : List (String × Inbox) × World :=
  let (inboxes, world) := (world.agents.map (·.1)).foldl
    (fun (inboxes, world) name =>
      let (inbox, world) := look world name
      ((name, inbox) :: inboxes, world))
    (([] : List (String × Inbox)), world)
  (inboxes.reverse.filter fun (_, inbox) => inbox.closed || !inbox.got.isEmpty, world)

end ServiceChannel.Session.World
