import ServiceChannel.Program.Outcome
import ServiceChannel.Session.Run

/-!
# The serve command

Serves a standalone container until somebody stops it: its agent, or an interruption.

- `Service.start`: the container comes up.
- `Service.attend`: everything pending happens, and a stop that was asked for is carried out.
- `Service.interrupt`: stops the container from outside.
-/

namespace ServiceChannel.Program

open Session (Host Inbox World)

/-- A container that is served, with the agents that are connected. -/
structure Service where
  world : World
  /-- The container was not stopped yet. -/
  running : Bool := true

namespace Service

/-- Starts serving a container. On failure the log of the attempt is kept as well. -/
def start (options : CommandLine.ServeOptions) (socketDir : Option String) (path : String)
    (network : Network) : Except Error Unit × Service :=
  let config := options.config socketDir
  let host : Host :=
    { kernel := network
      engine := { config := config, released := true }
      container := some (.standalone options.name options.dns options.allowExec) }
  let (result, host) := (host.record (.starting version)).start config
  (result, { world := { host := host, path := path } })

/-- The description of the container. -/
def container (service : Service) (unique : String) : String :=
  (service.world.host.container.map (·.describe unique)).getD ""

/-- What the service logged. -/
def events (service : Service) : List Event := service.world.host.log.toList

/-- The outcome of a service that came up, or did not. -/
def outcome (service : Service) (settings : LogSettings) (unique : String)
    (result : Except Error Unit) : Outcome :=
  .ofResult settings (service.container unique) service.events "" result

/-- Finishes a service whose container was told to stop. -/
def finish (service : Service) : Service :=
  { world := (service.world.finish.onHost (·.record .finished)).settle, running := false }

/-- Everything pending happens. If a stop was asked for, the service finishes. -/
def attend (service : Service) : Service :=
  let world := service.world.settle
  let (asked, host) := world.host.takeStopRequest
  if service.running && asked then
    { service with world := world.withHost (host.record .stopRequested) }.finish
  else { service with world := world.withHost host }

/-- Stops the container from outside, and finishes. -/
def interrupt (service : Service) : Service :=
  if service.running then
    finish { service with
      world := service.world.onHost fun host => (host.record .interrupted).stopContainer }
  else service

end Service
end ServiceChannel.Program
