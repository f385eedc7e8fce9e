import ServiceChannel.Channel.Reading

/-!
# The standalone container

A standalone container hosts its own engine: it brings one up when it starts and gives it up when
it finishes. Between the two it boots, runs and is asked to stop.

- `Channel.start`: from stopped to booting, or back to stopped when the engine does not come up.
- `Channel.finish`: gives the engine up and stops, once the agent had its time.
- `Channel.takeStopRequest`: whether a stop was asked for since the last time.
-/

namespace ServiceChannel.Channel

variable {κ : Type} [Kernel κ]

/-- The stage of the container's life; one that has gone is stopped. -/
def state (channel : Channel κ) : Lifecycle :=
  (channel.container.map (·.state)).getD .stopped

/-- Starts the container with a new engine, all three phases in one go (`start`). -/
def start (channel : Channel κ) (config : Config) : Except Error Unit × Channel κ :=
  if channel.engine.released then
    let channel := (channel.setState .starting).onEngine fun _ => { config := config }
    match channel.bringUp with
    | (.error error, channel) => (.error error, channel.release.setState .stopped)
    | (.ok (), channel) =>
      (.ok (), (channel.record (.waitingForAgent config.socketPath)).setState .booting)
  else (.error (.invalidState Lifecycle.stopped.name channel.state.name), channel)

/-- The agent was asked to shut down and is given time to do so. -/
def awaitsShutdown (channel : Channel κ) : Bool := channel.state = .shuttingDown

/-- Announces the wait for the agent, if there is one: `finish` up to its sleep. -/
def beginFinish (channel : Channel κ) : Channel κ :=
  if channel.awaitsShutdown then channel.record .waitingForShutdown else channel

/-- Gives the engine up and stops: `finish` after its sleep. -/
def endFinish (channel : Channel κ) : Channel κ :=
  let channel := if channel.engine.released then channel else channel.release
  channel.setState .stopped

/-- A stop was asked for: says so once, as a poll of `stop_requested` does. -/
def takeStopRequest (channel : Channel κ) : Bool × Channel κ :=
  match channel.container with
  | none => (false, channel)
  | some container =>
    match container.role with
    | .recording _ => (false, channel)
    | .standalone standalone =>
      let role := .standalone { standalone with stopRequested := false }
      (standalone.stopRequested, { channel with container := some { container with role := role } })

/-- The container goes away. A standalone one takes its engine along. -/
def dropContainer (channel : Channel κ) : Channel κ :=
  let hosts := channel.container.any Container.isStandalone && !channel.engine.released
  let channel := { channel with container := none }
  if hosts then channel.release else channel

end ServiceChannel.Channel
