import ServiceChannel.Engine
import ServiceChannel.Identity
import ServiceChannel.Lifecycle

/-!
# Containers

The container that a channel serves. There are two kinds: one that records what is asked of it, and
one that stands on its own and hosts its engine.

- `Container.recording`, `Container.standalone`: how a container of each kind begins.
-/

namespace ServiceChannel

/-- What a recording container keeps, and how it is told to behave. -/
structure Recording where
  stops : Nat := 0
  wipes : Nat := 0
  /-- The argument vectors of programs to run, in order. -/
  execs : List (List String) := []
  /-- The audit acknowledgements, in order. -/
  acks : List Bytes := []
  /-- How often a registered observer was taken off. -/
  unregistered : Nat := 0
  refusesObservers : Bool := false
  failsExec : Bool := false
  /-- What every stop does once the state has changed. -/
  hook : List EngineCall := []
  deriving DecidableEq

/-- What only a standalone container has. -/
structure Standalone where
  /-- Programs that the agent asks for are run. -/
  allowExec : Bool := false
  /-- A stop was asked for, and nobody has waited for it yet. -/
  stopRequested : Bool := false
  deriving DecidableEq

/-- The kind of a container. -/
inductive Role where
  | recording (recording : Recording)
  | standalone (standalone : Standalone)
  deriving DecidableEq

/-- A container. -/
structure Container where
  name : String
  dnsServer : Option String := none
  state : Lifecycle := .stopped
  screenOn : Bool
  connectivity : Connectivity := .offline
  identity : Identity := {}
  observers : Registry := {}
  role : Role
  deriving DecidableEq

namespace Container

/-- A recording container: stopped, its screen off. -/
def recording : Container where
  name := "test"
  screenOn := false
  role := .recording {}

/-- A standalone container: stopped, its screen on. -/
def standalone (name : String) (dnsServer : Option String) (allowExec : Bool) : Container where
  name := name
  dnsServer := dnsServer
  screenOn := true
  role := .standalone { allowExec := allowExec }

/-- Stands on its own, and logs what is done to it. -/
def isStandalone (container : Container) : Bool :=
  match container.role with
  | .recording _ => false
  | .standalone _ => true

/-- The container with an observer taken off (`unregister_observer`). A recording one counts
observers that were there. -/
def unregister (container : Container) (id : ObserverId) : Container :=
  let role := match container.role with
    | .recording recording =>
      .recording { recording with
        unregistered := recording.unregistered +
          if container.observers.contains id then 1 else 0 }
    | role => role
  { container with observers := container.observers.unregister id, role := role }

/-- The container with an observer more, and its number (`register_observer`). -/
def register (container : Container) (observer : Observer) :
    Except Error ObserverId × Container :=
  let registered : Except Error ObserverId × Container :=
    (.ok container.observers.next,
      { container with observers := container.observers.register observer })
  match container.role with
  | .recording recording =>
    if recording.refusesObservers then (.error .registrationRefused, container) else registered
  | .standalone _ => registered

end Container
end ServiceChannel
