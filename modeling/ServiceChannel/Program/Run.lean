import ServiceChannel.Program.Agent
import ServiceChannel.Program.Outcome
import ServiceChannel.Program.Visit

/-!
# Runs of the program

The program from its arguments to its end, in a world where an engine may listen already and where
a visitor calls on what it serves.

- `Run`: what can be seen afterwards.
- `run`: runs the program.
-/

namespace ServiceChannel.Program

open Session (Inbox World)

/-- What can be seen after a run. -/
structure Run where
  outcome : Outcome
  /-- What the remarks of the visitor brought. -/
  replies : List Inbox := []
  /-- The visitor was connected and did not leave. -/
  met : Bool := false
  world : World

/-- The world of a setup. If asked to, the engine of its container listens. -/
def worldOf (setup : Session.Setup) (listens : Bool) : World :=
  let world := Session.begin setup
  if listens then (world.onHostResult Channel.bringUp).2 else world

/-- Serves a container, for a visitor. Its network is the world's. -/
def runServe (options : CommandLine.ServeOptions) (environment : Environment)
    (settings : LogSettings) (visit : Visit) (world : World) : Run :=
  let (result, service) := Service.start options environment.socketDir world.path world.network
  match result with
  | .error error =>
    { outcome := service.outcome settings environment.unique (.error error)
      world := world.withNetwork service.world.network }
  | .ok () =>
    let encounter := visit.pay service
    let service := encounter.service
    { outcome := service.outcome settings environment.unique (.ok ())
      replies := encounter.replies
      met := encounter.met
      world := world.withNetwork service.world.network }

/-- Plays the agent. -/
def runAgent (options : CommandLine.AgentOptions) (environment : Environment)
    (settings : LogSettings) (world : World) : Run :=
  let (exchange, world) := exchange options environment.socketDir world
  { outcome := .ofResult settings "" (.starting version :: exchange.events) exchange.output
      exchange.result
    world := world.settle }

/-- Runs the program with the arguments behind its name. -/
def run (arguments : List String) (environment : Environment) (visit : Visit) (world : World) :
    Run :=
  match CommandLine.parse arguments with
  | .error error => { outcome := .refused error, world := world }
  | .ok invocation =>
    match setUpLog invocation.log environment.logRules false world.network with
    | (.error fault, network) =>
      { outcome := .withoutLog fault, world := world.withNetwork network }
    | (.ok settings, network) =>
      let world := world.withNetwork network
      match invocation.command with
      | .serve options => runServe options environment settings visit world
      | .agent options => runAgent options environment settings world

end ServiceChannel.Program
