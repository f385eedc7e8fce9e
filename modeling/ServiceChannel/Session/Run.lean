import ServiceChannel.Channel.Description
import ServiceChannel.Session.Agents

/-!
# Running a session

Takes the steps of a session one after the other, and reports what can be seen after each.

- `Session.begin`: the world before the first step.
- `World.take`: one step.
- `Session.run`: all steps.
-/

namespace ServiceChannel.Session

/-- How a session is set up. -/
structure Setup where
  config : Config
  /-- The directory that is there from the beginning. -/
  directory : String
  container : Container
  /-- What is at the path of the socket from the beginning. -/
  occupant : Option Occupant := none

namespace World

/-! ## The path of the socket -/

/-- Changes what is at the path of the socket. -/
def put (world : World) (occupant : Occupant) : Option World :=
  match world.network.tree.resolve world.path with
  | .error _ => none
  | .ok (path, _) =>
    some (match occupant with
      | .stale =>
        let (owner, network) := world.network.addSocket .closed
        world.withNetwork (network.onTree (·.put path (.socket owner)))
      | .file => world.onNetwork (·.onTree (·.put path .file))
      | .directory => world.onNetwork (·.onTree (·.put path .directory))
      | .vacant => world.onNetwork (·.onTree (·.take path)))

/-- What is at the path of the socket. -/
def occupant (world : World) : Option EntryKind :=
  match world.network.tree.lookup world.path with
  | .ok entry => some entry.kind
  | .error _ => none

/-! ## Steps -/

/-- A step that gives nothing. -/
def done (world : World) : Outcome × World := (.answer .done, world)

/-- A step that changes the recording part of the container. -/
def onRecording (world : World) (change : Recording → Recording) : Outcome × World :=
  (world.onHost (·.onContainer fun container =>
    match container.role with
    | .recording recording => { container with role := .recording (change recording) }
    | .standalone _ => container)).done

/-- A step that gives success or an error. -/
def onHostResult (world : World) (step : Host → Except Error Unit × Host) : Outcome × World :=
  let (result, host) := step world.host
  (.answer (.ofUnit result), world.withHost host)

/-- Takes a step on a container that is there. -/
def takeContainer (world : World) (container : Container) (config : Config) (unique : String) :
    ContainerStep → Outcome × World
  | .setState state => (world.onHost (·.setState state)).done
  | .setScreenOn on => (world.onHost (·.setScreenOn on)).done
  | .identify update => (world.onHost (·.applyIdentity update)).done
  | .stop => (world.onHost (·.stopContainer)).done
  | .wipe => (world.onHost (·.wipe)).done
  | .exec arguments => world.onHostResult (·.exec arguments)
  | .acknowledgeAudit ack => (world.onHost (·.acknowledgeAudit ack)).done
  | .observe name reaction =>
    match world.host.watch name reaction with
    | (.ok id, host) => (.observer id, world.withHost host)
    | (.error error, host) => (.answer (.failed error), world.withHost host)
  | .unobserve name => (world.onHost (·.unwatch name)).done
  | .info => (.info container.name container.dnsServer (container.describe unique), world)
  | .drop => (world.onHost (·.dropContainer)).done
  | .setName name =>
    (world.onHost (·.onContainer fun container => { container with name := name })).done
  | .setDns server =>
    (world.onHost (·.onContainer fun container => { container with dnsServer := server })).done
  | .refuseObservers refuse =>
    world.onRecording fun recording => { recording with refusesObservers := refuse }
  | .failExec fail => world.onRecording fun recording => { recording with failsExec := fail }
  | .onStop calls => world.onRecording fun recording => { recording with hook := calls }
  | .start => world.onHostResult (·.start config)
  | .takeStopRequest =>
    let (asked, host) := world.host.takeStopRequest
    (.answer (.flag asked), world.withHost host)
  | .finish => world.finish.done

/-- Takes a step on the engine. -/
def takeEngine (world : World) : EngineStep → Outcome × World
  | .call call =>
    let (answer, host) := world.host.call call
    (.answer answer, world.withHost host)
  | .bringUp => world.onHostResult Channel.bringUp
  | .describe => (.text world.host.engine.describe, world)
  | .bridgeRecord record =>
    let (result, host) := world.host.sendRecord record
    (.answer (.ofSent result), world.withHost host)
  | .bridgeNotify remaining =>
    let (result, host) := world.host.notifyStorage remaining
    (.answer (.ofSent result), world.withHost host)
  | .bridgeComplete =>
    let (result, host) := world.host.sendCommand .auditComplete
    (.answer (.ofSent result), world.withHost host)

/-- Takes a step of an agent that is connected. -/
def takeConnected (world : World) (name : String) (agent : Agent) : AgentStep → Outcome × World
  | .connect | .drop => (.impossible, world)
  | .send message =>
    let (result, world) := world.writePayload agent message.encode
    (.answer (.ofUnit result), world)
  | .sendPayload payload =>
    let (result, world) := world.writePayload agent payload
    (.answer (.ofUnit result), world)
  | .sendBytes bytes =>
    let (result, world) := world.write agent bytes
    (.answer (.ofUnit result), world)
  | .halfClose => (world.onNetwork (·.halfClose agent.socket)).done
  | .receive =>
    match world.receive name with
    | (none, world) => (.message none, world)
    | (some (.ok message), world) => (.message (some message), world)
    | (some (.error error), world) => (.answer (.failed error), world)

/-- Takes a step of an agent. -/
def takeAgent (world : World) (name : String) (step : AgentStep) : Outcome × World :=
  match step with
  | .connect =>
    let (result, world) := world.connect name
    (.answer (.ofUnit result), world)
  | .drop => (world.dropAgent name).done
  | step =>
    match world.agent? name with
    | some agent => world.takeConnected name agent step
    | none => (.impossible, world)

/-- Says whether descriptors are left. -/
def setExhausted (world : World) (exhausted : Bool) : World :=
  world.onNetwork fun network => { network with exhausted := exhausted }

/-- An agent connects, no descriptor is left to accept it, and it goes again. -/
def failAccept (world : World) : Outcome × World :=
  match world.dial world.path with
  | .error error => (.answer (.failed (.io error)), world)
  | .ok (socket, world) =>
    let world := (world.setExhausted true).settle.setExhausted false
    (world.onNetwork (·.closeSocket socket)).done

/-- Takes an action. -/
def act (world : World) (config : Config) (unique : String) : Action → Outcome × World
  | .container step =>
    match world.host.container with
    | some container => world.takeContainer container config unique step
    | none => (.impossible, world)
  | .engine step => world.takeEngine step
  | .agent name step => world.takeAgent name step
  | .put occupant =>
    match world.put occupant with
    | some world => (.answer .done, world)
    | none => (.impossible, world)
  | .failAccept => world.failAccept
  | .idle => world.done

/-- Forgets the log and the notes, which were reported. -/
def clearRecords (world : World) : World :=
  world.withHost { world.host with log := #[], notes := #[] }

/-- Takes a step and reports. -/
def take (world : World) (config : Config) (unique : String) (step : Step) : Report × World :=
  let (outcome, world) := (world.setExhausted step.exhausted).act config unique step.action
  let world := world.setExhausted false
  let (inboxes, world) : Option (List (String × Inbox)) × World :=
    if step.settles then
      let (inboxes, world) := world.settle.lookAll
      (some inboxes, world)
    else (none, world)
  ({ outcome := outcome
     inboxes := inboxes
     path := world.occupant
     container := world.host.container
     engine := world.host.engine
     notes := world.host.notes.toList
     log := world.host.log.toList }, world.clearRecords)

end World

/-! ## Sessions -/

/-- The world before the first step. A standalone container has no engine yet. -/
def begin (setup : Setup) : World :=
  let network := ({} : Network).onTree (·.withDirectory setup.directory)
  let engine := { config := setup.config, released := setup.container.isStandalone }
  let world : World :=
    { host := { kernel := network, engine := engine, container := some setup.container }
      path := setup.config.socketPath }
  match setup.occupant with
  | some occupant => (world.put occupant).getD world
  | none => world

/-- Takes the steps one after the other. -/
def run (setup : Setup) (unique : String) (steps : List Step) : List Report :=
  let (reports, _) := steps.foldl
    (fun (reports, world) step =>
      let (report, world) := World.take world setup.config unique step
      (report :: reports, world))
    (([] : List Report), begin setup)
  reports.reverse

end ServiceChannel.Session
