import ServiceChannel.Proofs.Channel.Bond
import ServiceChannel.Proofs.Channel.Changes
import ServiceChannel.Proofs.Kernel.Script
import ServiceChannel.Proofs.Session.Turns

/-!
# Hosting

The life of a standalone container. It has no engine and is stopped, or it has one, which alone
observes it. Starting and finishing take it from one to the other; a start that fails leaves it
where it was, and so does everything else that is done with it or comes to it.

- `Chore`, `Channel.undertake`: what is done with the container.
- `Channel.finishing`: a whole finish, with what happens while it waits for the agent.
- `Channel.Free`, `Channel.Hosted`: the two sides of its life.
- `standalone_life_cycle`: what holds in every life.
-/

namespace ServiceChannel

/-- What is done with a standalone container, or comes to its engine: its own operations `start`,
`stop`, `set_connectivity`, `wipe` and `finish`, and traffic. -/
inductive Chore (κ : Type) where
  | start (config : Config)
  | stop
  | setConnectivity (connectivity : Connectivity)
  | wipe
  /-- A finish begins. What comes before its end happens while `finish` sleeps. -/
  | beginFinish
  | endFinish
  | traffic (traffic : Traffic κ)

/-- The same with another kernel around the one that goes on. -/
def Chore.map {κ ι : Type} (wrap : κ → ι) : Chore κ → Chore ι
  | .start config => .start config
  | .stop => .stop
  | .setConnectivity connectivity => .setConnectivity connectivity
  | .wipe => .wipe
  | .beginFinish => .beginFinish
  | .endFinish => .endFinish
  | .traffic comes => .traffic (comes.map wrap)

/-- The engine was given up, and nothing is left of it. -/
structure Engine.GivenUp (engine : Engine) : Prop where
  released : engine.released = true
  rendezvous : engine.rendezvous = .closed
  connection : engine.connection = none
  readers : engine.readers = []
  subscription : engine.subscription = none

namespace Channel

variable {κ : Type}

/-! ## The state of the container -/

theorem container_setState (channel : Channel κ) (state : Lifecycle) :
    (channel.setState state).container =
      channel.container.map fun container => { container with state := state } := by
  unfold setState
  cases there : channel.container with
  | none => exact there
  | some container =>
    have kept (event : Event) : (channel.recordStandalone event).container = some container :=
      (congrArg Holdings.container (channel.holdings_recordStandalone event)).trans there
    dsimp only
    split
    · simp only [onContainer, there]
    · simp only [onContainer, kept]

theorem engine_setState (channel : Channel κ) (state : Lifecycle) :
    (channel.setState state).engine = channel.engine :=
  congrArg Moorings.engine (channel.moorings_setState state)

/-- A container that is set to stopped is, and one that has gone is as well. -/
theorem state_setState_stopped (channel : Channel κ) :
    (channel.setState .stopped).state = .stopped := by
  unfold state
  rw [container_setState]
  cases channel.container <;> rfl

theorem state_onContainer (channel : Channel κ) {change : Container → Container}
    (keeps : ∀ container, (change container).state = container.state) :
    (channel.onContainer change).state = channel.state := by
  unfold state onContainer
  cases channel.container with
  | none => rfl
  | some container => exact keeps container

theorem state_of_holdings {before after : Channel κ} (same : after.holdings = before.holdings) :
    after.state = before.state :=
  congrArg (fun holdings => (holdings.container.map (·.state)).getD .stopped) same

/-! ## A container without an engine -/

/-- The container has no engine: it is stopped, and nobody observes it. -/
structure Free (channel : Channel κ) : Prop where
  engine : channel.engine.GivenUp
  home : ∃ issued, channel.bond.home = some ⟨true, ⟨[], issued⟩⟩
  stopped : channel.state = .stopped

/-- The container has an engine, which observes it, and nobody else does. -/
structure Hosted (channel : Channel κ) : Prop where
  tidy : channel.occupancy.Tidy
  bond : ∃ id issued, channel.bond = ⟨false, some id, some ⟨true, ⟨[(id, .bridge)], issued⟩⟩⟩

namespace Free

variable {channel : Channel κ}

theorem bound (free : channel.Free) : channel.bond.Private := by
  obtain ⟨issued, home⟩ := free.home
  exact ⟨_, home, rfl, by simp⟩

/-- What leaves the moorings alone leaves the container free, as long as it stays stopped. -/
theorem of_moorings {after : Channel κ} (free : channel.Free)
    (same : after.moorings = channel.moorings) (stopped : after.state = .stopped) : after.Free where
  engine := by
    have engine : after.engine = channel.engine := congrArg Moorings.engine same
    rw [engine]
    exact free.engine
  home := by
    rw [bond_of_moorings same]
    exact free.home
  stopped := stopped

theorem container (free : channel.Free) : ∃ container, channel.container = some container ∧
    container.isStandalone = true ∧ container.state = .stopped ∧
      container.observers.entries = [] := by
  obtain ⟨issued, home⟩ := free.home
  obtain ⟨container, there, same⟩ := Option.map_eq_some_iff.1 home
  refine ⟨container, there, congrArg Home.isStandalone same, ?_,
    congrArg (·.observers.entries) same⟩
  have stopped := free.stopped
  rw [state, show channel.container = some container from there] at stopped
  exact stopped

variable [Kernel κ]

theorem stopContainer (free : channel.Free) : channel.stopContainer.Free := by
  obtain ⟨container, standalone, there, role, -⟩ := container_of_private free.bound
  refine free.of_moorings (moorings_stopContainer there role) ?_
  unfold Channel.stopContainer requestShutdown
  rw [there]
  dsimp only
  rw [role]
  dsimp only
  rw [free.engine.released]
  refine (state_onContainer _ fun container => ?_).trans (state_setState_stopped _)
  split <;> rfl

theorem setConnectivity (free : channel.Free) (connectivity : Connectivity) :
    (channel.setConnectivity connectivity).Free := by
  obtain ⟨container, there, -, -, unobserved⟩ := free.container
  have empty : channel.audience = [] := by
    unfold audience
    rw [there]
    exact unobserved
  -- Nobody is told, so that storing is all that is done.
  have stores : channel.setConnectivity connectivity = channel.storeConnectivity connectivity := by
    unfold Channel.setConnectivity notificationDepth
    rw [setConnectivityWithin_succ, empty]
    rfl
  rw [stores]
  refine free.of_moorings (channel.moorings_storeConnectivity connectivity) ?_
  refine (state_onContainer _ fun container => ?_).trans ?_
  · rfl
  · exact (state_of_holdings (channel.holdings_recordStandalone _)).trans free.stopped

omit [Kernel κ] in
theorem wipe (free : channel.Free) : channel.wipe.Free := by
  refine free.of_moorings channel.moorings_wipe ?_
  refine (state_onContainer _ fun container => ?_).trans ?_
  · split <;> rfl
  · exact (state_of_holdings (channel.holdings_recordStandalone _)).trans free.stopped

/-- Nobody can connect, and nothing is read. -/
theorem attend (free : channel.Free) (traffic : Traffic κ) : (channel.attend traffic).Free := by
  have deaf : channel.engine.isListening = false :=
    congrArg Rendezvous.isListening free.engine.rendezvous
  have unread (id : Nat) : channel.engine.reader? id = none := by
    unfold Engine.reader?
    rw [free.engine.readers]
    rfl
  cases traffic with
  | arrival socket =>
    rw [Channel.attend, deaf]
    exact free
  | refusal error =>
    rw [Channel.attend, deaf]
    exact free
  | read id outcome =>
    rw [Channel.attend, receive, unread]
    exact free
  | sweep => exact free.of_moorings rfl free.stopped
  | elapse kernel => exact free.of_moorings rfl free.stopped

end Free

/-! ## A container with an engine -/

namespace Hosted

variable {channel : Channel κ}

theorem bound (hosted : channel.Hosted) : channel.bond.Private := by
  obtain ⟨id, issued, bond⟩ := hosted.bond
  exact ⟨⟨true, ⟨[(id, .bridge)], issued⟩⟩, by rw [bond], rfl, by simp⟩

theorem active (hosted : channel.Hosted) : channel.engine.released = false := by
  obtain ⟨id, issued, bond⟩ := hosted.bond
  exact congrArg Bond.released bond

theorem of_bond {after : Channel κ} (hosted : channel.Hosted) (tidy : after.occupancy.Tidy)
    (same : after.bond = channel.bond) : after.Hosted where
  tidy := tidy
  bond := by
    rw [same]
    exact hosted.bond

theorem container (hosted : channel.Hosted) : ∃ container id, channel.container = some container ∧
    container.isStandalone = true ∧ channel.engine.subscription = some id ∧
      container.observers.entries = [(id, .bridge)] := by
  obtain ⟨id, issued, bond⟩ := hosted.bond
  obtain ⟨container, there, same⟩ := Option.map_eq_some_iff.1 (congrArg Bond.home bond)
  exact ⟨container, id, there, congrArg Home.isStandalone same, congrArg Bond.subscription bond,
    congrArg (·.observers.entries) same⟩

/-- An engine that is given up leaves nothing behind, with the container or elsewhere. -/
theorem release (hosted : channel.Hosted) : channel.release.engine.GivenUp ∧
    ∃ issued, channel.release.bond.home = some ⟨true, ⟨[], issued⟩⟩ := by
  obtain ⟨id, issued, bond⟩ := hosted.bond
  have ties := channel.ties_release
  have released := channel.bond_release
  rw [bond] at released
  have home : channel.release.bond.home = some ⟨true, ⟨[], issued⟩⟩ := by
    rw [released]
    simp [Bond.loosen, Home.unregister, Registry.unregister]
  have readers := congrArg Occupancy.readers channel.occupancy_release
  refine ⟨⟨rfl, ?_, ?_, ?_, ?_⟩, issued, home⟩
  · exact congrArg Ties.rendezvous ties
  · exact congrArg Ties.connection ties
  · exact readers.trans (hosted.tidy.readers_vacate .released)
  · exact congrArg Ties.subscription ties

end Hosted

/-! ## Starting and finishing -/

/-- An engine that neither is connected nor observes anything only lets go of its socket. -/
theorem release_of_idle {channel : Channel κ} (unconnected : channel.engine.connection = none)
    (unobserving : channel.engine.subscription = none) :
    channel.release.container = channel.container ∧
      channel.release.engine =
        { channel.engine with rendezvous := .closed, released := true } := by
  have held := channel.holdings_closeRendezvous
  have cleaned := cleanup_of_idle unconnected unobserving
  refine ⟨?_, ?_⟩
  · exact (congrArg Channel.container cleaned).trans (congrArg Holdings.container held)
  · have engine : channel.cleanup.engine = { channel.engine with rendezvous := .closed } :=
      (congrArg Channel.engine cleaned).trans (congrArg Holdings.engine held)
    rw [release, onEngine, engine]

/-- The container as bringing its engine up finds it. -/
def begun (channel : Channel κ) (config : Config) : Channel κ :=
  (channel.setState .starting).onEngine fun _ => { config := config }

/-- A start that fails gives the engine up, whatever phase it reached, and leaves the container as
it was. -/
theorem Free.restored {channel after : Channel κ} (free : channel.Free) {config : Config}
    (moved : (channel.begun config).holdings.Moved after.holdings) :
    (after.release.setState .stopped).container = channel.container ∧
      (after.release.setState .stopped).Free := by
  obtain ⟨container, there, -, stopped, -⟩ := free.container
  obtain ⟨⟨rendezvous, engine⟩, kept⟩ := moved
  have unconnected : after.engine.connection = none := (congrArg Engine.connection engine).trans rfl
  have unobserving : after.engine.subscription = none :=
    (congrArg Engine.subscription engine).trans rfl
  obtain ⟨left, givenUp⟩ := release_of_idle unconnected unobserving
  -- The container is stopped again, and nothing else of it was changed.
  have restored : (after.release.setState .stopped).container = channel.container := by
    rw [container_setState, left, show after.container = (channel.begun config).container from kept,
      show (channel.begun config).container = (channel.setState .starting).container from rfl,
      container_setState, there, ← stopped]
    rfl
  refine ⟨restored, ?_, ?_, state_setState_stopped _⟩
  · rw [engine_setState, givenUp, show after.engine = _ from engine]
    exact ⟨rfl, rfl, rfl, rfl, rfl⟩
  · obtain ⟨issued, home⟩ := free.home
    exact ⟨issued, (congrArg (·.map Container.home) restored).trans home⟩

/-- The first observer of a container is the only one. -/
theorem home_observed_first {container : Container} {issued : Nat}
    (home : container.home = ⟨true, ⟨[], issued⟩⟩) :
    { container with observers := container.observers.register .bridge }.home =
      ⟨true, ⟨[(container.observers.next, .bridge)], container.observers.next⟩⟩ := by
  have standsAlone : container.isStandalone = true := congrArg Home.isStandalone home
  have unobserved : container.observers.entries = [] := congrArg (·.observers.entries) home
  have registered : container.observers.register .bridge =
      ⟨[(container.observers.next, .bridge)], container.observers.next⟩ := by
    rw [Registry.register, unobserved]
    rfl
  rw [← registered, ← standsAlone]
  rfl

/-- A start that succeeds leaves the engine observing the container, which boots. -/
theorem Free.booted {channel after : Channel κ} (free : channel.Free) {config : Config}
    {between : Holdings} {container : Container}
    (moved : (channel.begun config).holdings.Moved between)
    (there : (channel.begun config).container = some container)
    (held : after.holdings = between.observe container) (event : Event) :
    ((after.record event).setState .booting).Hosted ∧
      ((after.record event).setState .booting).state = .booting := by
  obtain ⟨⟨rendezvous, fresh⟩, -⟩ := moved
  have engine :
      ((after.record event).setState .booting).engine = (between.observe container).engine :=
    (engine_setState _ _).trans (congrArg Holdings.engine held)
  have bond : ((after.record event).setState .booting).bond =
      (between.observe container).moorings.bond := by
    refine (bond_of_moorings (moorings_setState _ _)).trans ?_
    exact congrArg (·.moorings.bond) held
  obtain ⟨issued, home⟩ := free.home
  have same : container.home = ⟨true, ⟨[], issued⟩⟩ := by
    have begun : (channel.begun config).container.map Container.home = channel.bond.home :=
      congrArg Moorings.home (channel.moorings_setState .starting)
    rw [there, home] at begun
    exact Option.some.inj begun
  have observed := home_observed_first same
  refine ⟨⟨?_, container.observers.next, container.observers.next, ?_⟩, ?_⟩
  · -- The engine is new: nothing is connected to it yet.
    unfold Occupancy.Tidy occupancy
    rw [engine, Holdings.observe, fresh]
    rfl
  · rw [bond]
    simp only [Moorings.bond, Holdings.moorings, Holdings.observe, fresh, Option.map_some, observed]
    rfl
  · have left : after.container = _ := congrArg Holdings.container held
    rw [state, container_setState, show (after.record event).container = after.container from rfl,
      left]
    rfl

variable [Kernel κ]

/-- A container that has an engine is not started. -/
theorem start_of_active {channel : Channel κ} (active : channel.engine.released = false)
    (config : Config) : channel.start config =
      (.error (.invalidState Lifecycle.stopped.name channel.state.name), channel) := by
  rw [start, active]
  rfl

theorem start_of_failed {channel after : Channel κ} {config : Config} {error : Error}
    (released : channel.engine.released = true)
    (failed : (channel.begun config).bringUp = (.error error, after)) :
    channel.start config = (.error error, after.release.setState .stopped) := by
  rw [start, if_pos released]
  dsimp only
  rw [← begun, failed]

theorem start_of_done {channel after : Channel κ} {config : Config}
    (released : channel.engine.released = true)
    (done : (channel.begun config).bringUp = (.ok (), after)) :
    channel.start config =
      (.ok (), (after.record (.waitingForAgent config.socketPath)).setState .booting) := by
  rw [start, if_pos released]
  dsimp only
  rw [← begun, done]

/-- A container without an engine is started, or it is left as it was. -/
theorem Free.start {channel : Channel κ} (free : channel.Free) (config : Config) :
    (∃ error, (channel.start config).1 = .error error ∧
      (channel.start config).2.container = channel.container ∧
        (channel.start config).2.Free) ∨
    (channel.start config).1 = .ok () ∧ (channel.start config).2.Hosted ∧
      (channel.start config).2.state = .booting := by
  obtain ⟨error, failed, moved⟩ | ⟨done, between, known, moved, there, held⟩ :=
    (channel.begun config).bringUp_cases
  · rw [start_of_failed free.engine.released (Prod.ext failed rfl)]
    exact .inl ⟨error, rfl, free.restored moved⟩
  · rw [start_of_done free.engine.released (Prod.ext done rfl)]
    exact .inr ⟨rfl, free.booted moved there held _⟩

omit [Kernel κ] in
/-- The end of a finish leaves the container free, whatever came before. -/
theorem endFinish_free {channel : Channel κ} (life : channel.Free ∨ channel.Hosted) :
    channel.endFinish.Free := by
  unfold endFinish
  dsimp only
  obtain free | hosted := life
  · rw [if_pos free.engine.released]
    exact free.of_moorings (channel.moorings_setState .stopped) (state_setState_stopped _)
  · rw [hosted.active]
    obtain ⟨givenUp, issued, home⟩ := hosted.release
    refine ⟨?_, ⟨issued, ?_⟩, state_setState_stopped _⟩
    · rw [if_neg nofun, engine_setState]
      exact givenUp
    · rw [if_neg nofun, bond_of_moorings (moorings_setState _ _)]
      exact home

/-! ## Lives -/

/-- Does a chore. -/
def undertake (channel : Channel κ) : Chore κ → Channel κ
  | .start config => (channel.start config).2
  | .stop => channel.stopContainer
  | .setConnectivity connectivity => channel.setConnectivity connectivity
  | .wipe => channel.wipe
  | .beginFinish => channel.beginFinish
  | .endFinish => channel.endFinish
  | .traffic traffic => channel.attend traffic

/-- Does all chores, one after the other. -/
def undertakeAll (channel : Channel κ) (chores : List (Chore κ)) : Channel κ :=
  chores.foldl undertake channel

/-- Finishes. While it waits for the agent, if it does, other chores are done. -/
def finishing (channel : Channel κ) (meanwhile : List (Chore κ)) : Channel κ :=
  let begun := channel.beginFinish
  (if begun.awaitsShutdown then begun.undertakeAll meanwhile else begun).endFinish

omit [Kernel κ] in
theorem holdings_beginFinish (channel : Channel κ) :
    channel.beginFinish.holdings = channel.holdings := by
  unfold beginFinish
  split <;> rfl

omit [Kernel κ] in
theorem occupancy_beginFinish (channel : Channel κ) :
    channel.beginFinish.occupancy = channel.occupancy := by
  unfold beginFinish
  split
  · exact (channel.occupancy_record _).trans (Occupancy.report_none _)
  · rfl

/-- A chore takes a free container to an engine if it is a start that succeeds, and else leaves it
free. -/
theorem Free.undertake {channel : Channel κ} (free : channel.Free) (chore : Chore κ) :
    (channel.undertake chore).Free ∨ (channel.undertake chore).Hosted := by
  cases chore with
  | start config =>
    obtain ⟨error, -, -, free⟩ | ⟨-, hosted, -⟩ := free.start config
    · exact .inl free
    · exact .inr hosted
  | stop => exact .inl free.stopContainer
  | setConnectivity connectivity => exact .inl (free.setConnectivity connectivity)
  | wipe => exact .inl free.wipe
  | beginFinish =>
    have held := channel.holdings_beginFinish
    exact .inl (free.of_moorings (moorings_of_holdings held)
      ((state_of_holdings held).trans free.stopped))
  | endFinish => exact .inl (endFinish_free (.inl free))
  | traffic traffic => exact .inl (free.attend traffic)

/-- Only the end of a finish takes the engine away. -/
theorem Hosted.undertake {channel : Channel κ} (hosted : channel.Hosted) (chore : Chore κ) :
    (channel.undertake chore).Free ∨ (channel.undertake chore).Hosted := by
  cases chore with
  | start config =>
    have same : channel.undertake (.start config) = channel :=
      congrArg Prod.snd (start_of_active hosted.active config)
    rw [same]
    exact .inr hosted
  | stop =>
    exact .inr (hosted.of_bond (hosted.tidy.handled channel.stopContainer_handled)
      (bond_stopContainer hosted.bound))
  | setConnectivity connectivity =>
    have tidy := hosted.tidy
    rw [← channel.occupancy_setConnectivity connectivity] at tidy
    exact .inr (hosted.of_bond tidy (bond_setConnectivity hosted.bound connectivity))
  | wipe =>
    have tidy := hosted.tidy
    rw [← channel.occupancy_wipe] at tidy
    exact .inr (hosted.of_bond tidy (bond_of_moorings channel.moorings_wipe))
  | beginFinish =>
    have tidy := hosted.tidy
    rw [← channel.occupancy_beginFinish] at tidy
    exact .inr (hosted.of_bond tidy (bond_of_holdings channel.holdings_beginFinish))
  | endFinish => exact .inl (endFinish_free (.inr hosted))
  | traffic traffic =>
    exact .inr (hosted.of_bond (tidy_attend hosted.tidy traffic)
      (bond_attend hosted.bound traffic))

theorem undertakeAll_life {channel : Channel κ} (life : channel.Free ∨ channel.Hosted)
    (chores : List (Chore κ)) :
    (channel.undertakeAll chores).Free ∨ (channel.undertakeAll chores).Hosted := by
  induction chores generalizing channel with
  | nil => exact life
  | cons chore chores ih =>
    obtain free | hosted := life
    · exact ih (free.undertake chore)
    · exact ih (hosted.undertake chore)

/-- A finish leaves the container free, whatever is done while it waits. -/
theorem finishing_free {channel : Channel κ} (life : channel.Free ∨ channel.Hosted)
    (meanwhile : List (Chore κ)) : (channel.finishing meanwhile).Free := by
  have begins := undertakeAll_life life [.beginFinish]
  unfold finishing
  dsimp only
  split
  · exact endFinish_free (undertakeAll_life begins meanwhile)
  · exact endFinish_free begins

omit [Kernel κ] in
/-- A standalone container that was not started yet. -/
def unstarted (kernel : κ) (config : Config) (name : String) (dnsServer : Option String)
    (allowExec : Bool) : Channel κ where
  kernel := kernel
  engine := { config := config, released := true }
  container := some (.standalone name dnsServer allowExec)

omit [Kernel κ] in
theorem unstarted_free (kernel : κ) (config : Config) (name : String) (dnsServer : Option String)
    (allowExec : Bool) : (unstarted kernel config name dnsServer allowExec).Free :=
  ⟨⟨rfl, rfl, rfl, rfl, rfl⟩, ⟨0, rfl⟩, rfl⟩

end Channel

/-- Finishing a container in a session is finishing it with some traffic meanwhile. -/
theorem Session.World.finish_host (world : Session.World) :
    ∃ traffic : List (Traffic Network), world.finish.host =
      world.host.finishing (traffic.map .traffic) := by
  obtain ⟨traffic, settled⟩ := (world.onHost (·.beginFinish)).settle_attends
  have undertaken (host : Session.Host) :
      host.undertakeAll (traffic.map .traffic) = host.attendAll traffic :=
    List.foldl_map
  refine ⟨traffic, ?_⟩
  unfold finish Channel.finishing
  dsimp only
  rw [undertaken]
  split
  · rename_i awaits
    have awaits : world.host.beginFinish.awaitsShutdown = true := awaits
    rw [if_pos awaits]
    exact congrArg Channel.endFinish settled
  · rename_i hurries
    have hurries : ¬ world.host.beginFinish.awaitsShutdown = true := hurries
    rw [if_neg hurries]
    rfl

/-- The life of a standalone container, with any kernel, whatever is done with it and whatever comes
to its engine.
At every moment, while it has no engine, nothing is left of the last one, the container is stopped
and nobody observes it; while it has one, the engine observes it and nobody else does.
A start is refused while there is an engine, and changes nothing; any other start that fails leaves
the container as it was, without an engine; and one that succeeds leaves it booting, with an engine.
A finish leaves a stopped container without an engine and without observers, whatever is done and
whatever comes while it waits for the agent. In a session nothing but traffic comes meanwhile, and
agents bring nothing else. -/
theorem standalone_life_cycle {κ : Type} [Kernel κ] (kernel : κ) (config : Config) (name : String)
    (dnsServer : Option String) (allowExec : Bool) (chores : List (Chore κ)) :
    let channel := (Channel.unstarted kernel config name dnsServer allowExec).undertakeAll chores
    (∃ container, channel.container = some container ∧ container.isStandalone = true ∧
      (channel.engine.released = true → channel.engine.GivenUp ∧
        container.state = .stopped ∧ container.observers.entries = []) ∧
      (channel.engine.released = false → ∃ id, channel.engine.subscription = some id ∧
        container.observers.entries = [(id, .bridge)])) ∧
    (∀ wanted,
      let result := (channel.start wanted).1
      let after := (channel.start wanted).2
      (channel.engine.released = false →
        result = .error (.invalidState Lifecycle.stopped.name channel.state.name) ∧
          after = channel) ∧
      (channel.engine.released = true →
        (∃ error, result = .error error ∧ after.container = channel.container ∧
          after.engine.GivenUp) ∨
        result = .ok () ∧ after.engine.released = false ∧ after.state = .booting)) ∧
    (∀ meanwhile,
      let after := channel.finishing meanwhile
      after.engine.GivenUp ∧ ∃ container, after.container = some container ∧
        container.state = .stopped ∧ container.observers.entries = []) ∧
    ∀ world : Session.World,
      (∃ traffic : List (Traffic Network),
        world.finish.host = world.host.finishing (traffic.map .traffic)) ∧
      ∀ name step, Session.Attends world.host (world.takeAgent name step).2.host := by
  intro channel
  have life : channel.Free ∨ channel.Hosted :=
    Channel.undertakeAll_life
      (.inl (Channel.unstarted_free kernel config name dnsServer allowExec)) chores
  refine ⟨?_, fun wanted => ?_, fun meanwhile => ?_,
    fun world => ⟨world.finish_host, world.takeAgent_attends⟩⟩
  · obtain free | hosted := life
    · obtain ⟨container, there, standsAlone, stopped, unobserved⟩ := free.container
      refine ⟨container, there, standsAlone, fun _ => ⟨free.engine, stopped, unobserved⟩, ?_⟩
      intro active
      exact absurd (active.symm.trans free.engine.released) nofun
    · obtain ⟨container, id, there, standsAlone, subscribed, observed⟩ := hosted.container
      refine ⟨container, there, standsAlone, ?_, fun _ => ⟨id, subscribed, observed⟩⟩
      intro released
      exact absurd (hosted.active.symm.trans released) nofun
  · refine ⟨fun active => ?_, fun released => ?_⟩
    · rw [Channel.start_of_active active]
      exact ⟨rfl, rfl⟩
    · obtain free | hosted := life
      · obtain ⟨error, failed, same, left⟩ | ⟨done, hosted, booting⟩ := free.start wanted
        · exact .inl ⟨error, failed, same, left.engine⟩
        · exact .inr ⟨done, hosted.active, booting⟩
      · exact absurd (hosted.active.symm.trans released) nofun
  · have free := Channel.finishing_free life meanwhile
    obtain ⟨container, there, -, stopped, unobserved⟩ := free.container
    exact ⟨free.engine, container, there, stopped, unobserved⟩

/-- A start with a backlog that the system refuses leaves the container as it was, and the next one
brings its engine up, which observes it under the first number. -/
example :
    let stopped := Channel.unstarted (⟨[]⟩ : Script) {} "a0" none false
    let refused := stopped.start { backlog := 5000 }
    let started := refused.2.start {}
    (Answer.ofUnit refused.1 = .failed (.listen (.os .invalidArgument)) ∧
      refused.2.container = stopped.container) ∧
    Answer.ofUnit started.1 = .done ∧ started.2.state = .booting ∧
      started.2.audience = [(1, .bridge)] := by
  decide +kernel

end ServiceChannel
