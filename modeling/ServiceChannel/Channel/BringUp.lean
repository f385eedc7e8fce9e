import ServiceChannel.Channel.Bridge

/-!
# Bringing a channel up

The rendezvous socket is brought up in three phases around the start of the container: made before,
bound inside, put to listening last. A phase that is called out of turn changes nothing; one that
fails in its turn gives the socket back.

- `Channel.create`, `Channel.bind`, `Channel.listen`: the phases, `start_pre_clone`, `start_child`
  and `start_pre_exec`.
- `Channel.cleanup`: lets go of the connection, the rendezvous and the subscription, in that order.
-/

namespace ServiceChannel.Channel

variable {κ : Type} [Kernel κ]

/-- Sets the phase of the rendezvous. -/
def setRendezvous (channel : Channel κ) (rendezvous : Rendezvous) : Channel κ :=
  channel.onEngine fun engine => { engine with rendezvous := rendezvous }

/-! ## The phases -/

/-- Makes the rendezvous socket, once the configuration is found valid (`start_pre_clone`). -/
def create (channel : Channel κ) : Except Error Unit × Channel κ :=
  match channel.engine.config.validate with
  | .error fault => (.error (.config fault.message), channel)
  | .ok () =>
    match channel.engine.rendezvous with
    | .closed =>
      match Kernel.openSocket channel.kernel with
      | (.error error, kernel) => (.error (.channelCreate error), { channel with kernel := kernel })
      | (.ok socket, kernel) =>
        (.ok (), ({ channel with kernel := kernel }.setRendezvous (.created socket)).record
          .socketCreated)
    | other => (.error (.invalidState "closed" other.phase), channel)

/-- Clears the way to a path: a socket that was left there is removed, and nothing else is
(`remove_stale_socket`). -/
def removeStale (channel : Channel κ) (path : String) : Except SystemError Unit × Channel κ :=
  if hasZero path then (.error .zeroInFileName, channel)
  else
    match Kernel.entry channel.kernel path with
    | (.error error, kernel) =>
      (if error = .os .noEntry then .ok () else .error error, { channel with kernel := kernel })
    | (.ok .socket, kernel) =>
      let channel := { channel with kernel := kernel }.record (.removingStaleSocket path)
      let (result, kernel) := Kernel.remove channel.kernel path
      (result, { channel with kernel := kernel })
    | (.ok _, kernel) => (.error .notSocket, { channel with kernel := kernel })

/-- Binds a socket to a path, in place of a socket that was left there (`bind_rendezvous`). -/
def bindAt (channel : Channel κ) (socket : Handle) (path : String) :
    Except SystemError Unit × Channel κ :=
  match channel.removeStale path with
  | (.error error, channel) => (.error error, channel)
  | (.ok (), channel) =>
    match addressFault? path with
    | some errno => (.error (.os errno), channel)
    | none =>
      match Kernel.bind channel.kernel socket path with
      | (.error error, kernel) => (.error error, { channel with kernel := kernel })
      | (.ok (), kernel) => (.ok (), { channel with kernel := kernel }.record (.socketBound path))

/-- Binds the rendezvous socket to its path (`start_child`). -/
def bind (channel : Channel κ) : Except Error Unit × Channel κ :=
  match channel.engine.rendezvous with
  | .created socket =>
    let path := channel.engine.config.socketPath
    match channel.bindAt socket path with
    | (.error error, channel) => (.error (.bind path error), channel.closeRendezvous)
    | (.ok (), channel) => (.ok (), channel.setRendezvous (.bound socket))
  | other => (.error (.invalidState "created" other.phase), channel)

/-- Lets connections come to a socket (`listen_rendezvous`). -/
def listenAt (channel : Channel κ) (socket : Handle) : Except SystemError Unit × Channel κ :=
  match backlogFault? channel.engine.config.backlog with
  | some errno => (.error (.os errno), channel)
  | none =>
    let (result, kernel) := Kernel.listen channel.kernel socket channel.engine.config.backlog
    (result, { channel with kernel := kernel })

/-- Has the engine observe its container, the second half of `start_pre_exec`. -/
def subscribe (channel : Channel κ) : Except Error Unit × Channel κ :=
  match channel.register .bridge with
  | (.error error, channel) => (.error (.observerRegistration error.message), channel)
  | (.ok id, channel) =>
    (.ok (), (channel.onEngine fun engine => { engine with subscription := some id }).record
      (.socketListening channel.engine.config.socketPath))

/-- Puts the rendezvous socket to listening, and observes the container (`start_pre_exec`). A
container that takes no observer makes the phase fail, though the socket listens already. -/
def listen (channel : Channel κ) : Except Error Unit × Channel κ :=
  match channel.engine.rendezvous with
  | .bound socket =>
    match channel.listenAt socket with
    | (.error error, channel) => (.error (.listen error), channel.closeRendezvous)
    | (.ok (), channel) => (channel.setRendezvous (.listening socket)).subscribe
  | other => (.error (.invalidState "bound" other.phase), channel)

/-- All three phases, up to the first that fails. -/
def bringUp (channel : Channel κ) : Except Error Unit × Channel κ :=
  match channel.create with
  | (.error error, channel) => (.error error, channel)
  | (.ok (), channel) =>
    match channel.bind with
    | (.error error, channel) => (.error error, channel)
    | (.ok (), channel) => channel.listen

/-! ## Letting go -/

/-- Lets go of the open connection. -/
def releaseConnection (channel : Channel κ) : Channel κ :=
  match channel.engine.connection with
  | some connection => (channel.record (.releasingConnection connection.id)).disconnect connection
  | none => channel

/-- Stops observing the container. -/
def unsubscribe (channel : Channel κ) : Channel κ :=
  match channel.engine.subscription with
  | some id => (channel.onEngine fun engine => { engine with subscription := none }).unregister id
  | none => channel

/-- Lets go of everything: the connection, the rendezvous and the subscription (`cleanup`). -/
def cleanup (channel : Channel κ) : Channel κ :=
  channel.releaseConnection.closeRendezvous.unsubscribe

/-- Drops the engine, with all that it holds. -/
def release (channel : Channel κ) : Channel κ :=
  channel.cleanup.onEngine fun engine => { engine with released := true }

end ServiceChannel.Channel
