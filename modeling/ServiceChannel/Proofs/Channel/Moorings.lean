import ServiceChannel.Proofs.Channel.Holdings

/-!
# Moorings

What acting on the container leaves alone: its engine, its kind, its observers, and the watchers
that are known by name. A container that is started, stopped, wiped or asked to run a program stays
moored as it was.

- `Container.home`: what of the container stays.
- `Moorings`: all that stays.
- `Channel.moorings_onContainer`: a change of the container that keeps its home.
- `Channel.kernel_setState` and others: what is done without the kernel.
-/

namespace ServiceChannel

/-- A container, as its engine and the observers have it. -/
structure Home where
  /-- It stands on its own. -/
  isStandalone : Bool
  observers : Registry

/-- The home that a container is. -/
def Container.home (container : Container) : Home := ⟨container.isStandalone, container.observers⟩

/-- An observer is taken off. -/
def Home.unregister (home : Home) (id : ObserverId) : Home :=
  { home with observers := home.observers.unregister id }

theorem Container.home_unregister (container : Container) (id : ObserverId) :
    (container.unregister id).home = container.home.unregister id := by
  obtain ⟨_, _, _, _, _, _, _, _ | _⟩ := container <;> rfl

/-- What acting on the container leaves alone. -/
structure Moorings where
  engine : Engine
  /-- The container, while it is there. -/
  home : Option Home
  /-- The numbers that watchers registered under their names. -/
  watchers : List (String × ObserverId)

/-- The moorings of what is held. -/
def Holdings.moorings (holdings : Holdings) : Moorings where
  engine := holdings.engine
  home := holdings.container.map Container.home
  watchers := holdings.watchers

namespace Channel

variable {κ : Type}

/-- What acting on the container leaves alone. -/
def moorings (channel : Channel κ) : Moorings := channel.holdings.moorings

theorem moorings_of_holdings {before after : Channel κ} (same : after.holdings = before.holdings) :
    after.moorings = before.moorings :=
  congrArg Holdings.moorings same

/-- The kind of the container and its observers stay if the change keeps them. -/
theorem moorings_onContainer (channel : Channel κ) {change : Container → Container}
    (keeps : ∀ container, (change container).home = container.home) :
    (channel.onContainer change).moorings = channel.moorings := by
  unfold moorings holdings Holdings.moorings onContainer
  cases channel.container with
  | none => rfl
  | some container => simp only [Option.map_some, keeps]

@[simp] theorem moorings_recordStandalone (channel : Channel κ) (event : Event) :
    (channel.recordStandalone event).moorings = channel.moorings :=
  moorings_of_holdings (channel.holdings_recordStandalone event)

/-! ## Acting on the container -/

@[simp] theorem moorings_storeConnectivity (channel : Channel κ) (connectivity : Connectivity) :
    (channel.storeConnectivity connectivity).moorings = channel.moorings := by
  refine (moorings_onContainer _ fun container => ?_).trans (channel.moorings_recordStandalone _)
  rfl

@[simp] theorem moorings_setState (channel : Channel κ) (state : Lifecycle) :
    (channel.setState state).moorings = channel.moorings := by
  unfold setState
  split
  · rfl
  · refine (moorings_onContainer _ fun container => ?_).trans ?_
    · rfl
    · split <;> simp

@[simp] theorem moorings_setScreenOn (channel : Channel κ) (on : Bool) :
    (channel.setScreenOn on).moorings = channel.moorings := by
  refine (moorings_onContainer _ fun container => ?_).trans (channel.moorings_recordStandalone _)
  rfl

@[simp] theorem moorings_applyIdentity (channel : Channel κ) (update : Identity) :
    (channel.applyIdentity update).moorings = channel.moorings := by
  refine (moorings_onContainer _ fun container => ?_).trans
    (foldl_recordStandalone moorings_recordStandalone _ channel)
  rfl

@[simp] theorem moorings_requestStop (channel : Channel κ) :
    channel.requestStop.moorings = channel.moorings := by
  refine moorings_onContainer _ fun container => ?_
  obtain ⟨_, _, _, _, _, _, _, _ | _⟩ := container <;> rfl

@[simp] theorem moorings_wipe (channel : Channel κ) : channel.wipe.moorings = channel.moorings := by
  refine (moorings_onContainer _ fun container => ?_).trans (channel.moorings_recordStandalone _)
  obtain ⟨_, _, _, _, _, _, _, _ | _⟩ := container <;> rfl

@[simp] theorem moorings_acknowledgeAudit (channel : Channel κ) (ack : Bytes) :
    (channel.acknowledgeAudit ack).moorings = channel.moorings := by
  refine (moorings_onContainer _ fun container => ?_).trans (channel.moorings_recordStandalone _)
  obtain ⟨_, _, _, _, _, _, _, _ | _⟩ := container <;> rfl

variable [Kernel κ]

@[simp] theorem moorings_spawn (channel : Channel κ) (arguments : List String) :
    (channel.spawn arguments).2.moorings = channel.moorings := by
  unfold spawn
  split
  · rfl
  · split
    · rfl
    · split <;> rfl

@[simp] theorem moorings_exec (channel : Channel κ) (arguments : List String) :
    (channel.exec arguments).2.moorings = channel.moorings := by
  unfold exec
  split
  · rfl
  · rename_i container there
    split
    · rename_i recording role
      simp [moorings, holdings, Holdings.moorings, Container.home, Container.isStandalone, there,
        role]
    · split
      · exact channel.moorings_spawn arguments
      · rfl

/-- A container that stands on its own stays moored when it is stopped. A recording one runs its
hook, which can do anything. -/
theorem moorings_stopContainer {channel : Channel κ} {container : Container}
    {standalone : Standalone} (there : channel.container = some container)
    (role : container.role = .standalone standalone) :
    channel.stopContainer.moorings = channel.moorings := by
  have asked := moorings_of_holdings channel.holdings_requestShutdown
  unfold stopContainer
  rw [there]
  dsimp only
  rw [role]
  dsimp only
  split <;> rename_i answered <;> rw [answered] at asked <;>
    rw [moorings_requestStop, moorings_setState] <;> exact asked

/-! ## The kernel -/

omit [Kernel κ] in
@[simp] theorem kernel_setState (channel : Channel κ) (state : Lifecycle) :
    (channel.setState state).kernel = channel.kernel := by
  unfold setState
  split
  · rfl
  · dsimp only [onContainer]
    split
    · rfl
    · exact channel.kernel_recordStandalone _

omit [Kernel κ] in
@[simp] theorem kernel_setScreenOn (channel : Channel κ) (on : Bool) :
    (channel.setScreenOn on).kernel = channel.kernel :=
  channel.kernel_recordStandalone _

omit [Kernel κ] in
@[simp] theorem kernel_wipe (channel : Channel κ) : channel.wipe.kernel = channel.kernel :=
  channel.kernel_recordStandalone _

omit [Kernel κ] in
@[simp] theorem kernel_acknowledgeAudit (channel : Channel κ) (ack : Bytes) :
    (channel.acknowledgeAudit ack).kernel = channel.kernel :=
  channel.kernel_recordStandalone _

omit [Kernel κ] in
@[simp] theorem kernel_applyIdentity (channel : Channel κ) (update : Identity) :
    (channel.applyIdentity update).kernel = channel.kernel :=
  foldl_recordStandalone kernel_recordStandalone _ channel

end Channel
end ServiceChannel
