import ServiceChannel.Connectivity

/-!
# Observers

A container tells observers when its connectivity is set. Registering hands out a number that is
never handed out again, and with it an observer can be taken off.

- `Registry.register`, `Registry.unregister`: joining at the end, leaving from anywhere.
-/

namespace ServiceChannel

/-- The number under which an observer is registered. -/
abbrev ObserverId := Nat

/-- What a watcher does besides noting that it was told, in the order of the fields. -/
structure Reaction where
  /-- Takes the watcher of this name off. -/
  unregister : Option String := none
  /-- Sets the connectivity, if it differs. -/
  set : Option Connectivity := none
  /-- Registers another watcher, without a reaction, under this name. -/
  register : Option String := none
  deriving DecidableEq

/-- Who is told. -/
inductive Observer where
  /-- The engine, which passes the connectivity on to its agent. -/
  | bridge
  /-- A bystander with a name. -/
  | watcher (name : String) (reaction : Reaction)
  deriving DecidableEq

/-- The observers of a container, in the order in which they joined. -/
structure Registry where
  entries : List (ObserverId × Observer) := []
  /-- How many numbers were handed out. -/
  issued : Nat := 0
  deriving DecidableEq

namespace Registry

/-- The number that the next observer gets; numbers count from one. -/
def next (registry : Registry) : ObserverId := registry.issued + 1

/-- The registry with one more observer, under the next number. -/
def register (registry : Registry) (observer : Observer) : Registry where
  entries := registry.entries ++ [(registry.next, observer)]
  issued := registry.next

/-- The registry without an observer; an unknown number changes nothing. -/
def unregister (registry : Registry) (id : ObserverId) : Registry :=
  { registry with entries := registry.entries.filter (·.1 ≠ id) }

/-- An observer is registered under this number. -/
def contains (registry : Registry) (id : ObserverId) : Bool := registry.entries.any (·.1 = id)

/-- How many observers are registered. -/
def size (registry : Registry) : Nat := registry.entries.length

end Registry
end ServiceChannel
