import ServiceChannel.Channel.Send

/-!
# The connectivity bridge

The container decides its connectivity. Setting it tells every observer, and the engine, being one,
passes the new value on to the agent unless the agent has it already.

- `Channel.reconcile`: brings the agent in line, and says whether a message was needed.
- `Channel.setConnectivity`: sets the container's connectivity and tells the observers.

Watchers may set the connectivity while they are told of it, which tells everyone again.
`Channel.notificationDepth` bounds how often these can stand inside one another when it ends at all.
-/

namespace ServiceChannel.Channel

variable {κ : Type} [Kernel κ]

/-- Sends the connectivity if it differs from the one last exchanged, and says whether it did
(`bridge_connectivity`). -/
def bridge (channel : Channel κ) (connectivity : Connectivity) : Except Error Bool × Channel κ :=
  if connectivity = channel.engine.connectivity then
    (.ok false, channel.record (.connectivityInSync connectivity))
  else
    match channel.sendConnectivity connectivity with
    | (.error error, channel) => (.error error, channel)
    | (.ok _, channel) => (.ok true, channel)

/-- Brings the agent in line with the container, and says whether a message was needed
(`reconcile_connectivity`). -/
def reconcile (channel : Channel κ) : Except Error Bool × Channel κ :=
  match channel.container with
  | none => (.error .containerGone, channel)
  | some container => channel.bridge container.connectivity

/-! ## Observers -/

/-- The engine is told of the container's connectivity. An engine that was given up ignores it. -/
def notifyEngine (channel : Channel κ) (connectivity : Connectivity) : Channel κ :=
  if channel.engine.released then channel
  else match channel.bridge connectivity with
    | (.ok _, channel) => channel
    | (.error error, channel) => channel.record (.connectivityFailed error)

/-- Registers an observer with the container (`register_observer`). -/
def register (channel : Channel κ) (observer : Observer) : Except Error ObserverId × Channel κ :=
  match channel.container with
  | none => (.error .containerGone, channel)
  | some container =>
    let (result, container) := container.register observer
    (result, { channel with container := some container })

/-- Takes an observer off its container (`unregister_observer`). -/
def unregister (channel : Channel κ) (id : ObserverId) : Channel κ :=
  channel.onContainer (·.unregister id)

/-- Registers a watcher and notes its number under its name. -/
def watch (channel : Channel κ) (name : String) (reaction : Reaction) :
    Except Error ObserverId × Channel κ :=
  match channel.register (.watcher name reaction) with
  | (.error error, channel) => (.error error, channel)
  | (.ok id, channel) =>
    (.ok id, { channel with
      watchers := (name, id) :: channel.watchers.filter (·.1 ≠ name) })

/-- Takes the watcher of a name off. The name stays known. -/
def unwatch (channel : Channel κ) (name : String) : Channel κ :=
  match channel.watchers.lookup name with
  | some id => channel.unregister id
  | none => channel

/-- Stores the connectivity in the container. -/
def storeConnectivity (channel : Channel κ) (connectivity : Connectivity) : Channel κ :=
  (channel.recordStandalone (.connectivityChanged connectivity)).onContainer fun container =>
    { container with connectivity := connectivity }

/-- Sets the connectivity, with up to `depth` settings inside one another. The observers told are
those registered when it starts, and each is told the connectivity that holds at its turn. -/
def setConnectivityWithin (depth : Nat) (channel : Channel κ) (connectivity : Connectivity) :
    Channel κ :=
  match depth with
  | 0 => channel
  | depth + 1 =>
    let observers := (channel.container.map (·.observers.entries)).getD []
    observers.foldl
      (fun channel (_, observer) =>
        match channel.container with
        | none => channel
        | some container =>
          match observer with
          | .bridge => channel.notifyEngine container.connectivity
          | .watcher name reaction =>
            let channel := channel.note (.notified name container.connectivity)
            let channel := match reaction.unregister with
              | some name => channel.unwatch name
              | none => channel
            let channel := match reaction.set with
              | some wanted =>
                if container.connectivity = wanted then channel
                else channel.setConnectivityWithin depth wanted
              | none => channel
            match reaction.register with
            | some name => (channel.watch name {}).2
            | none => channel)
      (channel.storeConnectivity connectivity)

/-- How many settings can stand inside one another: a watcher starts one only from a value other
than its own, and for the same watchers no value comes twice unless it never ends. -/
def notificationDepth (channel : Channel κ) : Nat :=
  let watchers := (channel.container.map (·.observers.size)).getD 0
  4 * (watchers + 1) * (watchers + 1) + 1

/-- Sets the container's connectivity and tells its observers (`set_connectivity`). -/
def setConnectivity (channel : Channel κ) (connectivity : Connectivity) : Channel κ :=
  setConnectivityWithin channel.notificationDepth channel connectivity

end ServiceChannel.Channel
