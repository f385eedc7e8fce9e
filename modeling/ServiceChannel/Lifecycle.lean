/-!
# Life cycle

The stages of a container's life. The ordinary way round is stopped, starting, booting, running,
shutting down, stopped.
-/

namespace ServiceChannel

/-- A stage of a container's life. -/
inductive Lifecycle where
  | stopped
  | starting
  | booting
  | running
  | freezing
  | frozen
  | zombie
  | shuttingDown
  | setup
  | rebooting
  deriving DecidableEq

namespace Lifecycle

/-- On the way down, or down already. -/
def isStopping : Lifecycle → Bool
  | .shuttingDown | .stopped => true
  | _ => false

/-- The name in log lines. -/
def name : Lifecycle → String
  | .stopped => "stopped"
  | .starting => "starting"
  | .booting => "booting"
  | .running => "running"
  | .freezing => "freezing"
  | .frozen => "frozen"
  | .zombie => "zombie"
  | .shuttingDown => "shutting_down"
  | .setup => "setup"
  | .rebooting => "rebooting"

theorem isStopping_iff {stage : Lifecycle} :
    stage.isStopping = true ↔ stage = .shuttingDown ∨ stage = .stopped := by
  cases stage <;> decide

end Lifecycle
end ServiceChannel
