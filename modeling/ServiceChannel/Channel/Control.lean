import ServiceChannel.Channel.Call

/-!
# Control of the container

What the agent, or anyone else, can have the container do. A recording container notes the request;
a standalone one logs it and acts.

- `Channel.stopContainer`: a recording container runs its hook; a standalone one sends its agent a
  shutdown, and is forced down when that fails.
- `Channel.exec`: runs a program, if the container allows it.
-/

namespace ServiceChannel.Channel

variable {κ : Type} [Kernel κ]

/-! ## Attributes -/

/-- Sets the stage of the container's life (`set_state`). -/
def setState (channel : Channel κ) (state : Lifecycle) : Channel κ :=
  match channel.container with
  | none => channel
  | some container =>
    let channel := if container.state = state then channel
      else channel.recordStandalone (.stateChanged container.state state)
    channel.onContainer fun container => { container with state := state }

/-- Turns the container's screen on or off (`set_screen_on`). -/
def setScreenOn (channel : Channel κ) (on : Bool) : Channel κ :=
  (channel.recordStandalone (.screenChanged on)).onContainer fun container =>
    { container with screenOn := on }

/-- Applies the present fields of an update, one after the other (`apply_to`). -/
def applyIdentity (channel : Channel κ) (update : Identity) : Channel κ :=
  let events := (update.imei.map .imeiSet).toList ++ (update.mac.map .macSet).toList ++
    (update.phoneNumber.map .phoneNumberSet).toList
  (events.foldl recordStandalone channel).onContainer fun container =>
    { container with identity := container.identity.apply update }

/-! ## Stopping -/

/-- Runs the calls of a stop hook in turn, as long as the engine is not given up, and notes each. -/
def runHook (channel : Channel κ) (calls : List EngineCall) : Channel κ :=
  calls.foldl
    (fun channel call =>
      if channel.engine.released then channel
      else
        let (answer, channel) := channel.call call
        channel.note (.stopHook call answer))
    channel

/-- Asks the agent of a standalone container to shut down. Without an engine there is no agent. -/
def requestShutdown (channel : Channel κ) : Except Error Delivery × Channel κ :=
  if channel.engine.released then (.error .notConnected, channel)
  else channel.sendCommand .shutdown

/-- Remembers that a stop was asked for, until `stop_requested` has said so. -/
def requestStop (channel : Channel κ) : Channel κ :=
  channel.onContainer fun container =>
    match container.role with
    | .standalone standalone =>
      { container with role := .standalone { standalone with stopRequested := true } }
    | .recording _ => container

/-- Stops the container (`stop`). -/
def stopContainer (channel : Channel κ) : Channel κ :=
  match channel.container with
  | none => channel
  | some container =>
    match container.role with
    | .recording recording =>
      let stopped := { container with
        state := .shuttingDown
        role := .recording { recording with stops := recording.stops + 1 } }
      { channel with container := some stopped }.runHook recording.hook
    | .standalone _ =>
      match channel.requestShutdown with
      | (.ok _, channel) => (channel.setState .shuttingDown).requestStop
      | (.error error, channel) =>
        ((channel.record (.forcedDown error)).setState .stopped).requestStop

/-! ## Data and programs -/

/-- Wipes the container's data (`wipe`): a standalone container forgets its identity. -/
def wipe (channel : Channel κ) : Channel κ :=
  (channel.recordStandalone .wiping).onContainer fun container =>
    match container.role with
    | .recording recording =>
      { container with role := .recording { recording with wipes := recording.wipes + 1 } }
    | .standalone _ => { container with identity := {} }

/-- Runs a program on the system (`spawn_exec`). -/
def spawn (channel : Channel κ) (arguments : List String) : Except Error Unit × Channel κ :=
  if arguments.isEmpty then (.error .emptyArguments, channel)
  else if arguments.any hasZero then (.error (.io .zeroInArgument), channel)
  else
    match Kernel.spawn channel.kernel arguments with
    | (.ok (), kernel) => (.ok (), { channel with kernel := kernel })
    | (.error error, kernel) => (.error (.io error), { channel with kernel := kernel })

/-- Has the container run a program (`exec_cap_systime`). -/
def exec (channel : Channel κ) (arguments : List String) : Except Error Unit × Channel κ :=
  match channel.container with
  | none => (.error .containerGone, channel)
  | some container =>
    match container.role with
    | .recording recording =>
      let asked := { recording with execs := recording.execs ++ [arguments] }
      (if recording.failsExec then .error .execFailed else .ok (),
        { channel with container := some { container with role := .recording asked } })
    | .standalone standalone =>
      if standalone.allowExec then channel.spawn arguments else (.error .execDisabled, channel)

/-- Hands an acknowledgement to the audit store (`audit_process_ack`). -/
def acknowledgeAudit (channel : Channel κ) (ack : Bytes) : Channel κ :=
  (channel.recordStandalone (.auditAckReceived ack.length)).onContainer fun container =>
    match container.role with
    | .recording recording =>
      { container with role := .recording { recording with acks := recording.acks ++ [ack] } }
    | .standalone _ => container

end ServiceChannel.Channel
